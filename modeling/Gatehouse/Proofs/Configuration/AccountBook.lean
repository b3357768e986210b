import Gatehouse.Session.Game.Basic
import Gatehouse.Session.Login
import Gatehouse.Proofs.Bytes.Text
import Gatehouse.Proofs.Configuration.Accepted
import Gatehouse.Proofs.Hello.RoundTrip

namespace Gatehouse

/-!
# The account book

What a name and a password open, said of the byte strings that were presented:
the account of exactly that name, if its password is empty or exactly the one
presented. Names that are too long or not text open nothing, and passwords that
are open only accounts without a password. Each service looks for the account on
its own, and both find the same one.
-/

/-- Whether an account has a name and is opened by a password. -/
def Account.IsOpenedWith (account : Account) (name password : Bytes) : Prop :=
  Bytes.ofText account.name = name ∧
    (account.password = "" ∨ Bytes.ofText account.password = password)

/-- Whether a character of the given name belongs to an account. -/
def Account.HasCharacter (account : Account) (character : Bytes) : Prop :=
  ∃ name ∈ account.characters, Bytes.ofText name = character

/-- Whether the account book opens an account for a name and a password. -/
def Configuration.Opens (config : Configuration) (name password : Bytes) : Prop :=
  ∃ account ∈ config.accounts, account.IsOpenedWith name password

/-- Whether the account book lets a character play for a name and a password. -/
def Configuration.Admits (config : Configuration) (name character password : Bytes) : Prop :=
  ∃ account ∈ config.accounts,
    account.IsOpenedWith name password ∧ account.HasCharacter character

theorem Configuration.Admits.opens
    {config : Configuration}
    {name character password : Bytes}
    (admits : config.Admits name character password) :
    config.Opens name password := by
  obtain ⟨account, member, opened, _⟩ := admits
  exact ⟨account, member, opened⟩

/--
Whether an account is the first of its name in the account book, and a password
opens it. Nothing is asked of the book: names may be shared, empty or too long.
-/
structure Configuration.Finds
    (config : Configuration)
    (name password : Bytes)
    (account : Account) : Prop where
  first :
    ∃ before after,
      config.accounts = before ++ account :: after ∧
        ∀ other ∈ before, Bytes.ofText other.name ≠ name
  opened : account.IsOpenedWith name password

namespace Credential

theorem toText?_of_short
    {value : Bytes}
    (short : value.length ≤ maxLength) :
    (Hello.credentialOf value).toText? = value.toText? := by
  rw [FixedText.toText?, Hello.bytes_credentialOf, if_pos short]

/-- A credential that is too long spells the empty text. -/
theorem toText?_of_long
    {value : Bytes}
    (long : ¬value.length ≤ maxLength) :
    (Hello.credentialOf value).toText? = some "" := by
  rw [FixedText.toText?, Hello.bytes_credentialOf, if_neg long]
  exact Bytes.toText?_ofText ""

/-- The text of a credential that is not empty is spelled by what was presented. -/
theorem toText?_eq_some
    (value : Bytes)
    {text : String}
    (nonempty : text ≠ "")
    (short : text.utf8ByteSize ≤ maxLength) :
    (Hello.credentialOf value).toText? = some text ↔ Bytes.ofText text = value := by
  by_cases presentedShort : value.length ≤ maxLength
  · rw [toText?_of_short presentedShort, Bytes.toText?_eq_some]
  · rw [toText?_of_long presentedShort]
    constructor
    · intro isEmpty
      exact absurd (Option.some.inj isEmpty).symm nonempty
    · rintro rfl
      rw [Bytes.length_ofText] at presentedShort
      exact absurd short presentedShort

end Credential

namespace Account

/-- A credential opens an account exactly if its password is empty or the text of the credential. -/
theorem isOpenedBy_iff (account : Account) (password : Credential) :
    account.isOpenedBy (password.toText?.getD "") = true ↔
      account.password = "" ∨ password.toText? = some account.password := by
  simp only [isOpenedBy, Bool.or_eq_true, String.isEmpty_iff, decide_eq_true_eq]
  by_cases open_ : account.password = ""
  · simp [open_]
  · cases password.toText? with
    | none =>
        simp [open_]
    | some text =>
        simp [open_, eq_comm]

/-- An account is opened by a credential exactly if its password is empty or was presented. -/
theorem isOpenedBy_credentialOf
    {account : Account}
    (accepted : account.Accepted)
    (password : Bytes) :
    account.isOpenedBy ((Hello.credentialOf password).toText?.getD "") = true ↔
      account.password = "" ∨ Bytes.ofText account.password = password := by
  rw [isOpenedBy_iff]
  by_cases open_ : account.password = ""
  · simp [open_]
  · rw [Credential.toText?_eq_some password open_ accepted.password_short]

/-- An account owns the character that a short credential spells exactly if it has the character. -/
theorem hasCharacter_iff
    {account : Account}
    {character : Bytes}
    (short : character.length ≤ Credential.maxLength) :
    account.HasCharacter character ↔
      ∃ text,
        (Hello.credentialOf character).toText? = some text ∧ account.owns text = true := by
  rw [Credential.toText?_of_short short]
  simp only [HasCharacter, owns, List.contains_iff_mem, Bytes.toText?_eq_some]
  constructor
  · intro has
    rcases has with ⟨name, member, spelled⟩
    exact ⟨name, spelled, member⟩
  · intro owned
    rcases owned with ⟨name, spelled, member⟩
    exact ⟨name, member, spelled⟩

end Account

namespace Configuration

theorem find?_name
    {accounts : List Account}
    (distinct : accounts.Pairwise fun first second => first.name ≠ second.name)
    {name : String}
    {account : Account} :
    accounts.find? (fun other => other.name = name) = some account ↔
      account ∈ accounts ∧ account.name = name := by
  constructor
  · intro found
    exact ⟨List.mem_of_find?_eq_some found, by simpa using List.find?_some found⟩
  · intro named
    rcases named with ⟨member, rfl⟩
    induction accounts with
    | nil =>
        cases member
    | cons first rest inductionHypothesis =>
        obtain ⟨unlike, restDistinct⟩ := List.pairwise_cons.mp distinct
        rcases List.mem_cons.mp member with isFirst | inRest
        · subst isFirst
          simp
        · have differs : first.name ≠ account.name := unlike account inRest
          rw [List.find?_cons_of_neg (by simpa using differs)]
          exact inductionHypothesis restDistinct inRest

/-- What credentials open is found by the text of the name, and opened by the password. -/
theorem accountOpenedBy?_iff
    {config : Configuration}
    {name password : Credential}
    {account : Account} :
    config.accountOpenedBy? name password = some account ↔
      ∃ text,
        name.toText? = some text ∧
          config.account? text = some account ∧
          account.isOpenedBy (password.toText?.getD "") = true := by
  simp only [accountOpenedBy?, Option.bind_eq_bind, Option.bind_eq_some_iff, Option.pure_def]
  constructor
  · intro answered
    rcases answered with ⟨text, spelled, found, isFound, _, guarded, same⟩
    cases same
    refine ⟨text, spelled, isFound, ?_⟩
    simpa [guard] using guarded
  · intro answers
    rcases answers with ⟨text, spelled, isFound, isOpened⟩
    exact ⟨text, spelled, account, isFound, (), by simp [guard, isOpened], rfl⟩

/-- Credentials open what the account book finds for their bytes, whatever the book. -/
theorem accountOpenedBy?_iff_finds
    {config : Configuration}
    {name password : Credential}
    {account : Account} :
    config.accountOpenedBy? name password = some account ↔
      config.Finds name.bytes password.bytes account := by
  have opens_iff :
      account.isOpenedBy (password.toText?.getD "") = true ↔
        account.password = "" ∨ Bytes.ofText account.password = password.bytes := by
    rw [Account.isOpenedBy_iff, FixedText.toText?, Bytes.toText?_eq_some]
  rw [accountOpenedBy?_iff]
  constructor
  · intro answers
    rcases answers with ⟨text, spelled, isFound, isOpened⟩
    have name_eq := Bytes.toText?_eq_some.mp spelled
    obtain ⟨named, before, after, split, unlike⟩ := List.find?_eq_some_iff_append.mp isFound
    obtain rfl : account.name = text := of_decide_eq_true named
    refine ⟨⟨before, after, split, fun other member same => ?_⟩, name_eq, opens_iff.mp isOpened⟩
    have differs : other.name ≠ account.name := by
      simpa using unlike other member
    have spells := Bytes.toText?_eq_some.mpr (name_eq.trans same.symm)
    rw [Bytes.toText?_ofText] at spells
    exact differs (Option.some.inj spells)
  · intro finds
    rcases finds with ⟨⟨before, after, split, unlike⟩, named, isOpened⟩
    refine ⟨account.name, Bytes.toText?_eq_some.mpr named, ?_, opens_iff.mpr isOpened⟩
    refine List.find?_eq_some_iff_append.mpr ⟨by simp, before, after, split, ?_⟩
    intro other member
    have differs : other.name ≠ account.name := by
      intro same
      exact unlike other member (same ▸ named)
    simpa using differs

/-- Credentials open nothing exactly if the account book finds nothing for their bytes. -/
theorem accountOpenedBy?_eq_none_iff_finds
    {config : Configuration}
    {name password : Credential} :
    config.accountOpenedBy? name password = none ↔
      ∀ account, ¬config.Finds name.bytes password.bytes account := by
  simp only [Option.eq_none_iff_forall_ne_some, ne_eq, accountOpenedBy?_iff_finds]

/-- What the account book finds is an account of the configuration. -/
theorem Finds.mem
    {config : Configuration}
    {name password : Bytes}
    {account : Account}
    (finds : config.Finds name password account) :
    account ∈ config.accounts := by
  obtain ⟨before, after, split, _⟩ := finds.first
  simp [split]

/-- What credentials open is an account of the configuration. -/
theorem mem_of_accountOpenedBy?
    {config : Configuration}
    {name password : Credential}
    {account : Account}
    (opened : config.accountOpenedBy? name password = some account) :
    account ∈ config.accounts :=
  (accountOpenedBy?_iff_finds.mp opened).mem

/-- What credentials open is what the account book says of the bytes presented. -/
theorem accountOpenedBy?_eq_some
    {config : Configuration}
    (accepted : config.Accepted)
    {name password : Bytes}
    {account : Account} :
    config.accountOpenedBy? (Hello.credentialOf name) (Hello.credentialOf password) =
        some account ↔
      account ∈ config.accounts ∧ account.IsOpenedWith name password := by
  rw [accountOpenedBy?_iff]
  unfold Account.IsOpenedWith
  constructor
  · intro answers
    rcases answers with ⟨text, spelled, isFound, isOpened⟩
    obtain ⟨member, rfl⟩ := (find?_name accepted.names_distinct).mp isFound
    have own := accepted.account_accepted account member
    exact ⟨member, (Credential.toText?_eq_some name own.name_ne_empty own.name_short).mp spelled,
      (Account.isOpenedBy_credentialOf own password).mp isOpened⟩
  · intro opens
    rcases opens with ⟨member, named, isOpened⟩
    have own := accepted.account_accepted account member
    exact ⟨account.name,
      (Credential.toText?_eq_some name own.name_ne_empty own.name_short).mpr named,
      (find?_name accepted.names_distinct).mpr ⟨member, rfl⟩,
      (Account.isOpenedBy_credentialOf own password).mpr isOpened⟩

/-- A name that is too long opens nothing. -/
theorem not_opens_of_long
    {config : Configuration}
    (accepted : config.Accepted)
    {name : Bytes}
    (long : Credential.maxLength < name.length)
    (password : Bytes) :
    ¬config.Opens name password := by
  rintro ⟨account, member, rfl, _⟩
  rw [Bytes.length_ofText] at long
  exact absurd (accepted.account_accepted account member).name_short (Nat.not_le_of_lt long)

/-- Credentials open nothing exactly if the account book has nothing for the bytes presented. -/
theorem accountOpenedBy?_eq_none
    {config : Configuration}
    (accepted : config.Accepted)
    {name password : Bytes} :
    config.accountOpenedBy? (Hello.credentialOf name) (Hello.credentialOf password) = none ↔
      ¬config.Opens name password := by
  rw [Option.eq_none_iff_forall_ne_some]
  constructor
  · intro none opens
    rcases opens with ⟨account, member, opened⟩
    exact none account ((accountOpenedBy?_eq_some accepted).mpr ⟨member, opened⟩)
  · intro none account found
    obtain ⟨member, opened⟩ := (accountOpenedBy?_eq_some accepted).mp found
    exact none ⟨account, member, opened⟩

end Configuration

/-- The game service finds the account that the login service would find. -/
theorem GameSession.openedAccount?_eq (config : Configuration) (session : GameSession) :
    session.openedAccount? config =
      config.accountOpenedBy? session.account session.password := by
  rw [openedAccount?, Configuration.accountOpenedBy?]
  cases session.account.toText? with
  | none =>
      rfl
  | some name =>
      cases found : config.account? name with
      | none =>
          simp [found]
      | some account =>
          simp only [Option.bind_some, Option.bind_eq_bind, found, Option.filter_some, guard]
          split <;> rfl

end Gatehouse
