import Gatehouse.Configuration.Basic
import Gatehouse.Text.Quoted

namespace Gatehouse

/-!
# What a log may show of a configuration

An account is shown without its password.
-/

/-- What a log may show of an account. -/
def Account.redacted (account : Account) : String :=
  let characters := ", ".intercalate (account.characters.map Text.quoted)
  "AccountConfig \x7b name: " ++ Text.quoted account.name ++
    s!", premium_days: {account.premiumDays.toNat}, characters: [" ++ characters ++ "], .. \x7d"

end Gatehouse
