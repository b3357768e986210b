import Gatehouse.Proofs.Services
import Gatehouse.Proofs.Session.Staging
import Gatehouse.Proofs.Transport.Outputs

namespace Gatehouse.Services

/-!
# The outputs of both services

Both services stage steadily, which is all that a switchboard asks of a service
to deliver its outputs. So after any passes both deliver to every connection
what they handed over to it, in order and in full up to the last output.
-/

/-- New connections of a pass were sent nothing and have received nothing. -/
structure IsFresh (input : ServicesInput) : Prop where
  login : ∀ found ∈ input.login.incoming, found.IsFresh
  game : ∀ found ∈ input.game.incoming, found.IsFresh

/-- Both switchboards came from where they started by steps of their own. -/
structure Reached (start services : Services) : Prop where
  login :
    ∃ departures,
      Switchboard.Reached LoginService.protocol start.login departures services.login
  game :
    ∃ departures,
      Switchboard.Reached GameService.protocol start.game departures services.game

variable {start services : Services}

theorem Reached.refl (start : Services) : start.Reached start :=
  ⟨⟨[], .start⟩, ⟨[], .start⟩⟩

theorem Reached.pass
    {input : ServicesInput}
    {after : AfterServicesPass}
    (reached : start.Reached services)
    (fresh : IsFresh input)
    (passed : services.pass input = .ok after) :
    start.Reached after.services := by
  obtain ⟨loginDepartures, loginReached⟩ := reached.login
  obtain ⟨gameDepartures, gameReached⟩ := reached.game
  obtain ⟨login, loginPassed, answered⟩ := Checked.bind_eq_ok.mp passed
  have loginGoesOn := loginReached.pass fresh.login loginPassed
  cases outcome : login.outcome with
  | error error =>
      -- The game service has no pass after one of the login service that failed.
      simp only [outcome] at answered
      cases answered
      exact ⟨⟨_, loginGoesOn⟩, ⟨_, gameReached⟩⟩
  | ok done =>
      simp only [outcome] at answered
      obtain ⟨game, gamePassed, answered⟩ := Checked.bind_eq_ok.mp answered
      cases answered
      exact ⟨⟨_, loginGoesOn⟩, ⟨_, gameReached.pass fresh.game gamePassed⟩⟩

theorem Reached.run
    {inputs : List ServicesInput}
    {after : Services}
    (reached : start.Reached services)
    (fresh : ∀ input ∈ inputs, IsFresh input)
    (ran : services.run inputs = .ok after) :
    start.Reached after := by
  induction inputs generalizing services with
  | nil =>
      cases ran
      exact reached
  | cons input rest inductionHypothesis =>
      obtain ⟨passed, onePass, ranRest⟩ := Checked.bind_eq_ok.mp ran
      have further := reached.pass (fresh input List.mem_cons_self) onePass
      exact inductionHypothesis further
        (fun other member => fresh other (List.mem_cons_of_mem input member)) ranRest

/-- After any passes both services have delivered their outputs in order. -/
theorem outputs_delivered_of_run
    {host : Host}
    {now : Nat}
    {config : Configuration}
    {arena : Arena}
    {key : KeyPair}
    {inputs : List ServicesInput}
    (listening : listen host now config arena key = .ok (.ok start))
    (fresh : ∀ input ∈ inputs, IsFresh input)
    (ran : start.run inputs = .ok services) :
    (∃ departures calls,
        Switchboard.DeliversInOrder LoginService.protocol start.login departures services.login
          calls) ∧
      ∃ departures calls,
        Switchboard.DeliversInOrder GameService.protocol start.game departures services.game
          calls := by
  obtain ⟨⟨loginDepartures, ofLogin⟩, ⟨gameDepartures, ofGame⟩⟩ :=
    (Reached.refl start).run fresh ran
  obtain ⟨⟨loginService, left⟩, started, answered⟩ := Checked.bind_eq_ok.mp listening
  obtain ⟨loginAttempt, loginListens, answered⟩ := Checked.bind_eq_ok.mp answered
  cases loginAttempt with
  | error error =>
      cases answered
  | ok loginMade =>
      obtain ⟨gameService, _, answered⟩ := Checked.bind_eq_ok.mp answered
      obtain ⟨gameAttempt, gameListens, answered⟩ := Checked.bind_eq_ok.mp answered
      cases gameAttempt with
      | error error =>
          cases answered
      | ok gameMade =>
          cases answered
          have isStarted := (Switchboard.service_of_listen loginListens).1
          have loginSteady := LoginService.stagesSteadily_ofArena started
          rw [← isStarted] at loginSteady
          exact ⟨⟨_, Switchboard.exists_deliversInOrder loginListens loginSteady ofLogin⟩,
            ⟨_, Switchboard.exists_deliversInOrder gameListens (GameService.stagesSteadily _)
              ofGame⟩⟩

end Gatehouse.Services
