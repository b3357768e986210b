import Gatehouse.Configuration.Summary
import Gatehouse.Configuration.Writing
import Gatehouse.Hello.Writing
import Gatehouse.LeadingInteger
import Gatehouse.Main
import Gatehouse.Packet.World
import Gatehouse.Proofs.Checksum.WordSums
import Gatehouse.Proofs.Cipher.InPlace
import Gatehouse.Proofs.Frame.AllOrNothing
import Gatehouse.Proofs.Frame.Tampering
import Gatehouse.Proofs.Hello.Verdict
import Gatehouse.Proofs.Hello.Versions
import Gatehouse.Proofs.KeyPair.PlainPower
import Gatehouse.Proofs.Outgoing.Outbox
import Gatehouse.Proofs.Outgoing.Snapshot
import Gatehouse.Proofs.Packet.FieldByField
import Gatehouse.Proofs.Services
import Gatehouse.Proofs.Session.Admission
import Gatehouse.Proofs.Session.Game.Authentication
import Gatehouse.Proofs.Session.Game.Conservation
import Gatehouse.Proofs.Session.Game.Farewell
import Gatehouse.Proofs.Session.Game.ReplyStream
import Gatehouse.Proofs.Session.Game.Speech
import Gatehouse.Proofs.Session.Isolation
import Gatehouse.Proofs.Session.Login.Conversation
import Gatehouse.Proofs.Session.Login.Listing
import Gatehouse.Proofs.Session.LongIdentities
import Gatehouse.Proofs.Session.Safety
import Gatehouse.Proofs.Session.Staging
import Gatehouse.Proofs.Storage.IndexOrder
import Gatehouse.Proofs.Storage.Recycling
import Gatehouse.Proofs.Storage.Reserving
import Gatehouse.Proofs.Transport.Outputs
import Gatehouse.Proofs.Ticker
import Gatehouse.Proofs.Storage.Arrays
import Gatehouse.Proofs.Delivery
