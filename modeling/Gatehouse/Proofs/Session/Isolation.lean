import Gatehouse.Proofs.Session.Game.Relocation
import Gatehouse.Proofs.Session.Login.Response

namespace Gatehouse

/-!
# Slots are isolated

From the moment a connection is accepted on, its slot shows what it shows in a
service that has just started and serves this connection only. Neither the
connections in other slots nor those that had the slot before can be observed:
what they leave is wiped when the slot is taken over, and the blocks that they
share come back wiped.
-/

/-- What can be observed of a slot: its outlet, and its session but for where its blocks lie. -/
structure SlotView (S : Type) where
  outlet : Outlet
  session? : Option S

namespace LoginService

/-- What can be observed of a slot. -/
def view (slot : Nat) (service : LoginService) : SlotView LoginSession where
  outlet := protocol.outlet slot service
  session? := service.sessions[slot]?.map (·.movedTo 0)

/-- Services whose sessions in a slot differ in the place of the reply buffer at most. -/
structure Alike (slot : Nat) (mixed alone : LoginService) : Prop where
  config_eq : alone.config = mixed.config
  key_eq : alone.key = mixed.key
  moved :
    ∃ session address,
      mixed.sessions[slot]? = some session ∧
        alone.sessions[slot]? = some (session.movedTo address)

theorem Alike.view_eq
    {slot : Nat}
    {mixed alone : LoginService}
    (alike : Alike slot mixed alone) :
    view slot alone = view slot mixed := by
  obtain ⟨session, address, found, aloneFound⟩ := alike.moved
  simp only [view, outlet_eq found, outlet_eq aloneFound, found, aloneFound]
  rfl

/-- A call for the slot is answered alike. -/
theorem Alike.respond
    {slot : Nat}
    {mixed alone next : LoginService}
    {call : ProtocolCall}
    {answer : ProtocolAnswer}
    (alike : Alike slot mixed alone)
    (isHere : call.slot = slot)
    (responded : protocol.respond mixed call = .ok (answer, next)) :
    ∃ aloneNext,
      protocol.respond alone call = .ok (answer, aloneNext) ∧ Alike slot next aloneNext := by
  subst isHere
  obtain ⟨session, address, found, aloneFound⟩ := alike.moved
  obtain ⟨_, after, isThere, answered, rfl⟩ := respond_eq_ok.mp responded
  rw [found] at isThere
  cases isThere
  have moved := @LoginSession.respond_movedTo session address _ _ _ _ _ answered
  rw [← alike.config_eq, ← alike.key_eq] at moved
  exact ⟨_, respond_eq_ok.mpr ⟨_, _, aloneFound, moved, rfl⟩, alike.config_eq, alike.key_eq, after,
    address, getElem?_withSession found after, getElem?_withSession aloneFound _⟩

/-- From a connection on, a slot shows what it shows in any whole service without the others. -/
theorem IsWhole.watch_alone
    {config : Configuration}
    {key : KeyPair}
    {slot : Nat}
    {peer : SocketAddress}
    {mixed alone after : LoginService}
    {later : List ProtocolCall}
    {sights : List (Sight (SlotView LoginSession))}
    (whole : mixed.IsWhole config key)
    (aloneWhole : alone.IsWhole config key)
    (watched :
      protocol.watch (view slot) slot mixed (.accept slot peer :: later) = .ok (sights, after)) :
    ∃ last,
      protocol.watch (view slot) slot alone (.accept slot peer :: callsFor slot later) =
          .ok (sights, last) ∧
        view slot last = view slot after := by
  obtain ⟨_, _, _, responded, _, _⟩ := ConnectionProtocol.watch_cons_eq_ok.mp watched
  obtain ⟨session, _, found, _, _⟩ := respond_eq_ok.mp responded
  change mixed.sessions[slot]? = some session at found
  have inside : slot < alone.sessions.length := by
    rw [aloneWhole.count_eq, ← whole.count_eq]
    exact (List.getElem?_eq_some_iff.mp found).1
  have aloneFound : alone.sessions[slot]? = some alone.sessions[slot] :=
    List.getElem?_eq_getElem inside
  have start :
      Alike slot
        (mixed.withSession slot ((LoginSession.accepted peer).movedTo session.reply.address))
        (alone.withSession slot
          ((LoginSession.accepted peer).movedTo alone.sessions[slot].reply.address)) :=
    ⟨aloneWhole.config_eq.trans whole.config_eq.symm, aloneWhole.key_eq.trans whole.key_eq.symm, _,
      _, getElem?_withSession found _, getElem?_withSession aloneFound _⟩
  have both :
      (protocol.watch (view slot) slot alone (.accept slot peer :: callsFor slot later)).Meets
        (fun _ => False) fun answer => answer.1 = sights ∧ Alike slot after answer.2 := by
    refine ConnectionProtocol.watch_accept ?_ ?_ (fun _ _ alike => alike.view_eq)
      (whole.respond_accept found peer) (aloneWhole.respond_accept aloneFound peer) start watched
    · intro mixed alone call answer next alike isHere responded
      obtain ⟨aloneNext, aloneResponded, nextAlike⟩ := alike.respond isHere responded
      rw [aloneResponded]
      exact ⟨rfl, nextAlike⟩
    · intro mixed alone call answer next alike elsewhere responded
      obtain ⟨_, other, _, _, rfl⟩ := respond_eq_ok.mp responded
      obtain ⟨session, address, found, aloneFound⟩ := alike.moved
      refine ⟨alike.config_eq, alike.key_eq, session, address, ?_, aloneFound⟩
      rw [getElem?_withSession_of_ne elsewhere, found]
  obtain ⟨⟨_, last⟩, watchedAlone, rfl, lastAlike⟩ := both.exists_eq_ok
  exact ⟨last, watchedAlone, lastAlike.view_eq⟩

end LoginService

namespace GameService

open BlockPool (BalancedAndTraced traced_contract)

/-- What can be observed of a slot. -/
def view (slot : Nat) (service : GameService) : SlotView GameSession where
  outlet := protocol.outlet slot service
  session? := service.sessions[slot]?.map GameSession.unplaced

/-- The books of a service whose blocks come from an arena. -/
abbrev BooksOn (config : Configuration) (arena : Arena) : Nat → BlockPool → Prop :=
  BalancedAndTraced config.game.outputBufferSize arena

/--
Whole services whose sessions in a slot agree apart from addresses; one of them
holds no other blocks than those of this session.
-/
structure Alike
    (config : Configuration)
    (key : KeyPair)
    (arena aloneArena : Arena)
    (slot : Nat)
    (mixed alone : GameService) : Prop where
  whole : mixed.IsWhole config key (BooksOn config arena)
  alone_whole : alone.IsWhole config key (BooksOn config aloneArena)
  alike :
    ∃ session other,
      mixed.sessions[slot]? = some session ∧
        alone.sessions[slot]? = some other ∧
        session.Alike other ∧
        alone.held = other.held

namespace Alike

variable {config : Configuration} {key : KeyPair} {arena aloneArena : Arena} {slot : Nat}
  {mixed alone : GameService} (alike : Alike config key arena aloneArena slot mixed alone)

include alike

theorem view_eq : view slot alone = view slot mixed := by
  obtain ⟨session, other, found, aloneFound, same, _⟩ := alike.alike
  simp only [view, outlet_eq found, outlet_eq aloneFound, found, aloneFound, Option.map_some,
    same.unplaced_eq, same.staged_eq, same.status_eq]

/-- A call for the slot is answered alike, on the same arena in any case. -/
theorem respond
    {next : GameService}
    {call : ProtocolCall}
    {answer : ProtocolAnswer}
    (isHere : call.slot = slot)
    (responded : protocol.respond mixed call = .ok (answer, next)) :
    (protocol.respond alone call).Meets (fun _ => arena ≠ aloneArena) fun response =>
      response.1 = answer ∧ Alike config key arena aloneArena slot next response.2 := by
  subst isHere
  obtain ⟨session, other, found, aloneFound, same, held_eq⟩ := alike.alike
  obtain ⟨_, after, pool, isThere, answered, rfl⟩ := respond_eq_ok.mp responded
  rw [found] at isThere
  cases isThere
  obtain ⟨nextWhole, balance⟩ :=
    alike.whole.respond (traced_contract _ · arena) found answered
  have sessionWhole := alike.whole.sessions_whole _ (List.mem_of_getElem? found)
  have otherWhole := alike.alone_whole.sessions_whole _ (List.mem_of_getElem? aloneFound)
  have zero {arena : Arena} {service : GameService}
      (whole : service.IsWhole config key (BooksOn config arena))
      (block : Block) (left : BlockPool) (acquired : service.pool.acquire = .ok (block, left)) :
      block.bytes = Bytes.zeros config.game.outputBufferSize :=
    (((traced_contract _ _ arena).acquire whole.balanced (Nat.lt_succ_self _)).of_eq_ok acquired).1
  have both := GameSession.respond_alike same sessionWhole otherWhole
    (fun block left acquired otherBlock otherLeft otherAcquired =>
      (zero alike.alone_whole otherBlock otherLeft otherAcquired).trans
        (zero alike.whole block left acquired).symm)
    answered
  rw [alike.whole.config_eq, alike.whole.key_eq, ← alike.alone_whole.config_eq,
    ← alike.alone_whole.key_eq] at both
  rw [respond_eq, Checked.lookUp_of_getElem? aloneFound]
  simp only [bind, Except.bind]
  cases aloneAnswered : other.respond alone.config alone.key alone.pool call with
  | error fault =>
      obtain ⟨denied, grown⟩ := both.of_eq_error aloneAnswered
      -- One block more is held now, so on the same arena there was one for the other, too.
      intro sameArena
      subst sameArena
      have within := held_le_held found
      have fewer : alone.held < (mixed.withSession call.slot after pool).held := by
        rw [held_eq, same.held_eq]
        omega
      obtain ⟨granted, acquired⟩ :=
        alike.alone_whole.balanced.exists_acquire nextWhole.balanced fewer
      rw [denied] at acquired
      cases acquired
  | ok response =>
      rcases response with ⟨aloneAnswer, otherAfter, otherPool⟩
      obtain ⟨rfl, afterAlike⟩ := both.of_eq_ok aloneAnswered
      obtain ⟨aloneWhole, aloneBalance⟩ :=
        alike.alone_whole.respond (traced_contract _ · aloneArena) aloneFound aloneAnswered
      refine ⟨rfl, nextWhole, aloneWhole, after, otherAfter, getElem?_withSession found _ _,
        getElem?_withSession aloneFound _ _, afterAlike, ?_⟩
      simp only at aloneBalance ⊢
      omega

/-- A call for another slot is not noticed. -/
theorem respond_elsewhere
    {next : GameService}
    {call : ProtocolCall}
    {answer : ProtocolAnswer}
    (elsewhere : call.slot ≠ slot)
    (responded : protocol.respond mixed call = .ok (answer, next)) :
    Alike config key arena aloneArena slot next alone := by
  obtain ⟨_, other, pool, found, answered, rfl⟩ := respond_eq_ok.mp responded
  obtain ⟨nextWhole, _⟩ := alike.whole.respond (traced_contract _ · arena) found answered
  obtain ⟨session, aloneSession, isThere, rest⟩ := alike.alike
  refine ⟨nextWhole, alike.alone_whole, session, aloneSession, ?_, rest⟩
  rw [getElem?_withSession_of_ne elsewhere, isThere]

end Alike

/--
From a connection on, a slot shows what it shows in a service without the others
that held no block; on the same arena that service answers all the calls.
-/
theorem IsWhole.watch_alone
    {config : Configuration}
    {key : KeyPair}
    {arena aloneArena : Arena}
    {slot : Nat}
    {peer : SocketAddress}
    {mixed alone after : GameService}
    {later : List ProtocolCall}
    {sights : List (Sight (SlotView GameSession))}
    (whole : mixed.IsWhole config key (BooksOn config arena))
    (aloneWhole : alone.IsWhole config key (BooksOn config aloneArena))
    (idle : alone.held = 0)
    (watched :
      protocol.watch (view slot) slot mixed (.accept slot peer :: later) = .ok (sights, after)) :
    (protocol.watch (view slot) slot alone (.accept slot peer :: callsFor slot later)).Meets
      (fun _ => arena ≠ aloneArena) fun answer =>
        answer.1 = sights ∧ view slot answer.2 = view slot after := by
  obtain ⟨_, _, _, responded, _, _⟩ := ConnectionProtocol.watch_cons_eq_ok.mp watched
  obtain ⟨session, _, _, found, _, _⟩ := respond_eq_ok.mp responded
  change mixed.sessions[slot]? = some session at found
  have inside : slot < alone.sessions.length := by
    rw [aloneWhole.count_eq, ← whole.count_eq]
    exact (List.getElem?_eq_some_iff.mp found).1
  have aloneFound : alone.sessions[slot]? = some alone.sessions[slot] :=
    List.getElem?_eq_getElem inside
  obtain ⟨next, accepted, nextWhole, nextFound, _⟩ :=
    whole.accept (traced_contract _ · arena) found peer
  obtain ⟨aloneNext, aloneAccepted, aloneNextWhole, aloneNextFound, balance⟩ :=
    aloneWhole.accept (traced_contract _ · aloneArena) aloneFound peer
  have start : Alike config key arena aloneArena slot next aloneNext := by
    have holdsNone : (GameSession.accepted config.game.maxQueuedMessages peer).held = 0 := rfl
    exact ⟨nextWhole, aloneNextWhole, _, _, nextFound, aloneNextFound, .refl _, by omega⟩
  refine Checked.Meets.weaken
    (ConnectionProtocol.watch_accept
      (fun _ _ _ _ _ alike isHere responded => alike.respond isHere responded)
      (fun _ _ _ _ _ alike elsewhere responded => alike.respond_elsewhere elsewhere responded)
      (fun _ _ alike => alike.view_eq) accepted aloneAccepted start watched) ?_
  intro answer alike
  exact ⟨alike.1, alike.2.view_eq⟩

end GameService

/--
Whatever happened in a service before a connection is accepted for a slot, and
whatever happens in other slots from then on, all that is observed of the slot
is what a service that has just started with the same configuration and key
shows when it is called for this connection only. The game service takes blocks
for its replies: on the same arena it obtains them for the one connection if it
does for all, and on every other arena it shows the same once it obtains them.
-/
theorem slots_isolated
    (config : Configuration)
    (key : KeyPair)
    (slot : Nat)
    (peer : SocketAddress)
    (earlier later : List ProtocolCall) :
    (∀ arena rest start before sights after,
      LoginService.ofArena arena key config = .ok (start, rest) →
      LoginService.protocol.run start earlier = .ok before →
      LoginService.protocol.watch (LoginService.view slot) slot before
          (.accept slot peer :: later) =
        .ok (sights, after) →
      ∀ freshArena freshRest fresh,
        LoginService.ofArena freshArena key config = .ok (fresh, freshRest) →
        ∃ last,
          LoginService.protocol.watch (LoginService.view slot) slot fresh
              (.accept slot peer :: callsFor slot later) =
            .ok (sights, last) ∧
          LoginService.view slot last = LoginService.view slot after) ∧
      ∀ arena start before sights after,
        GameService.ofArena arena key config = .ok start →
        GameService.protocol.run start earlier = .ok before →
        GameService.protocol.watch (GameService.view slot) slot before
            (.accept slot peer :: later) =
          .ok (sights, after) →
        (∃ last,
          GameService.protocol.watch (GameService.view slot) slot start
              (.accept slot peer :: callsFor slot later) =
            .ok (sights, last) ∧
          GameService.view slot last = GameService.view slot after) ∧
          ∀ freshArena fresh freshSights last,
            GameService.ofArena freshArena key config = .ok fresh →
            GameService.protocol.watch (GameService.view slot) slot fresh
                (.accept slot peer :: callsFor slot later) =
              .ok (freshSights, last) →
            freshSights = sights ∧ GameService.view slot last = GameService.view slot after := by
  constructor
  · intro arena rest start before sights after started ran watched freshArena freshRest fresh
      freshStarted
    have whole := (LoginService.isWhole_ofArena started).run ran
    exact whole.watch_alone (LoginService.isWhole_ofArena freshStarted) watched
  · intro arena start before sights after started ran watched
    have books (arena : Arena) :
        GameService.BooksOn config arena 0 (.ofArena arena config.game.outputBufferSize) :=
      ⟨BlockPool.Balanced.ofArena arena _, rfl⟩
    obtain ⟨startWhole, startIdle⟩ := GameService.isWhole_ofArena started (books arena)
    have whole := startWhole.run (BlockPool.traced_contract _ · arena) ran
    constructor
    · have both := whole.watch_alone startWhole startIdle watched
      have never : ∀ _ : Fault, arena ≠ arena → False := fun _ differs => differs rfl
      obtain ⟨⟨_, last⟩, watchedAlone, rfl, same⟩ := (both.allow never).exists_eq_ok
      exact ⟨last, watchedAlone, same⟩
    · intro freshArena fresh freshSights last freshStarted watchedFresh
      obtain ⟨freshWhole, freshIdle⟩ := GameService.isWhole_ofArena freshStarted (books freshArena)
      exact (whole.watch_alone freshWhole freshIdle watched).of_eq_ok watchedFresh

/-- A slot whose connection is not the first one, while another connection comes and goes. -/
theorem second_connection_isolated :
    ∃ key : KeyPair,
      (∃ start rest before sights after last,
        LoginService.ofArena Configuration.defaultArena key {} = .ok (start, rest) ∧
          LoginService.protocol.run start [.accept 0 .loopback, .read 0 [1], .accept 1 .loopback] =
            .ok before ∧
          LoginService.protocol.watch (LoginService.view 0) 0 before
              [.accept 0 .loopback, .drop 1, .read 0 [7], .produce 0] =
            .ok (sights, after) ∧
          LoginService.protocol.watch (LoginService.view 0) 0 start
              [.accept 0 .loopback, .read 0 [7], .produce 0] =
            .ok (sights, last)) ∧
        ∃ start before sights after last,
          GameService.ofArena Configuration.defaultArena key {} = .ok start ∧
            GameService.protocol.run start
                [.accept 0 .loopback, .produce 0, .read 0 [1], .accept 1 .loopback] =
              .ok before ∧
            GameService.protocol.watch (GameService.view 0) 0 before
                [.accept 0 .loopback, .drop 1, .produce 0, .read 0 [7]] =
              .ok (sights, after) ∧
            GameService.protocol.watch (GameService.view 0) 0 start
                [.accept 0 .loopback, .produce 0, .read 0 [7]] =
              .ok (sights, last) := by
  let key : KeyPair := {
    firstPrime := 5
    secondPrime := 11
    modulus := 55
    exponent := 3
    firstExponent := 3
    secondExponent := 7
    coefficient := 1
  }
  refine ⟨key, ?_, ?_⟩
  · have mixed :
        ∃ start rest before sights after,
          LoginService.ofArena Configuration.defaultArena key {} = .ok (start, rest) ∧
            LoginService.protocol.run start
                [.accept 0 .loopback, .read 0 [1], .accept 1 .loopback] =
              .ok before ∧
            LoginService.protocol.watch (LoginService.view 0) 0 before
                [.accept 0 .loopback, .drop 1, .read 0 [7], .produce 0] =
              .ok (sights, after) :=
      ⟨_, _, _, _, _, rfl, rfl, rfl⟩
    obtain ⟨start, rest, before, sights, after, started, ran, watched⟩ := mixed
    obtain ⟨last, alone, _⟩ :=
      (slots_isolated {} key 0 .loopback _ _).1 _ _ start before sights after started ran watched
        _ _ start started
    exact ⟨start, rest, before, sights, after, last, started, ran, watched, alone⟩
  · have mixed :
        ∃ start before sights after,
          GameService.ofArena Configuration.defaultArena key {} = .ok start ∧
            GameService.protocol.run start
                [.accept 0 .loopback, .produce 0, .read 0 [1], .accept 1 .loopback] =
              .ok before ∧
            GameService.protocol.watch (GameService.view 0) 0 before
                [.accept 0 .loopback, .drop 1, .produce 0, .read 0 [7]] =
              .ok (sights, after) :=
      ⟨_, _, _, _, rfl, rfl, rfl⟩
    obtain ⟨start, before, sights, after, started, ran, watched⟩ := mixed
    obtain ⟨⟨last, alone, _⟩, _⟩ :=
      (slots_isolated {} key 0 .loopback _ _).2 _ start before sights after started ran watched
    exact ⟨start, before, sights, after, last, started, ran, watched, alone⟩

end Gatehouse
