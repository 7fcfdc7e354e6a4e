import TokenPattern.Proofs.MatcherHistory

namespace TokenPattern

/-!
# Sessions are histories of a matcher

What a command does to a session some steps do to a matcher.  So the matcher of
a session is in step with its source, and what a session puts aside stays there.
-/

variable {dialect : Dialect}

namespace Session

/-- A session has the matcher and the automata of a history of steps. -/
structure Follows (session : Session) (history : MatcherHistory) : Prop where
  current_eq : history.current = some ⟨session.matcher⟩
  kept_eq : history.kept = session.held.toList.map (·.automaton)

variable {session : Session}
variable {history : MatcherHistory}

theorem Follows.adopt
    (follows : session.Follows history)
    (built : Except BuildError (Matcher Token)) :
    (session.adopt built).2.Follows
      (history.adopt (built.map fun matcher => ⟨matcher⟩)).2 := by
  cases built with
  | error error =>
      exact follows
  | ok matcher =>
      exact ⟨rfl, follows.kept_eq⟩

theorem Follows.recompile
    (follows : session.Follows history)
    (source flags : String) :
    (session.adopt (session.matcher.recompile dialect source flags)).2.Follows
      (history.recompile dialect source flags).2 := by
  unfold MatcherHistory.recompile
  rw [follows.current_eq]
  exact follows.adopt _

theorem Follows.recompileAll
    (follows : session.Follows history)
    (flags : String)
    (sources : List String) :
    (Session.recompileAll dialect flags sources session).2.Follows
      (MatcherHistory.recompileAll dialect (sources.map (·, flags)) history).2 := by
  induction sources generalizing session history with
  | nil =>
      exact follows
  | cons source rest inductionHypothesis =>
      rw [Session.recompileAll, List.map_cons, MatcherHistory.recompileAll,
        MatcherHistory.recompile, follows.current_eq]
      dsimp only
      cases session.matcher.recompile dialect source flags with
      | error error =>
          exact follows
      | ok matcher =>
          exact inductionHypothesis ⟨rfl, follows.kept_eq⟩

/-- What a command does to a session some steps do to a matcher. -/
theorem Follows.execute
    (dialect : Dialect)
    (follows : session.Follows history)
    (command : Command) :
    ∃ steps,
      (session.execute dialect command).2.Follows
        (MatcherHistory.performAll dialect steps history).2 := by
  cases command with
  | replace source flags settings =>
      exact ⟨[.construct source flags settings], follows.adopt _⟩
  | reset =>
      exact ⟨[.constructStandard], follows.adopt _⟩
  | setTokenizer tokenizer =>
      refine ⟨[.setTokenizer ⟨tokenizer⟩], ?_⟩
      simp only [MatcherHistory.performAll, MatcherHistory.perform, follows.current_eq]
      exact ⟨rfl, follows.kept_eq⟩
  | recompile source flags =>
      exact ⟨[.recompile source flags], follows.recompile source flags⟩
  | recompileAll sources flags =>
      exact ⟨[.recompileAll (sources.map (·, flags))], follows.recompileAll flags sources⟩
  | hold =>
      refine ⟨[.keep], ?_⟩
      simp only [MatcherHistory.performAll, MatcherHistory.perform, follows.current_eq]
      refine ⟨rfl, ?_⟩
      simp [Session.execute, follows.kept_eq]
  | matchText | matchRecords | showText | describe | showSettings | showListing =>
      exact ⟨[], follows⟩
  | isHeld | matchHeld =>
      refine ⟨[], ?_⟩
      dsimp only [Session.execute, MatcherHistory.performAll]
      split <;> exact follows

/-- A session after some commands. -/
def executeAll (dialect : Dialect) (session : Session) (commands : List Command) : Session :=
  commands.foldl (fun session command => (session.execute dialect command).2) session

/-- A session is a history of steps. -/
theorem Follows.executeAll
    (dialect : Dialect)
    (follows : session.Follows history)
    (commands : List Command) :
    ∃ steps,
      (session.executeAll dialect commands).Follows
        (MatcherHistory.performAll dialect steps history).2 := by
  induction commands generalizing session history with
  | nil =>
      exact ⟨[], follows⟩
  | cons command rest inductionHypothesis =>
      obtain ⟨first, followsFirst⟩ := follows.execute dialect command
      obtain ⟨others, followsOthers⟩ := inductionHypothesis followsFirst
      refine ⟨first ++ others, ?_⟩
      rw [MatcherHistory.performAll_append]
      exact followsOthers

/-- After all commands the automaton of a session is that of its source under its settings. -/
theorem ofPattern_executeAll
    (started : Session.start dialect = .ok session)
    (commands : List Command) :
    let matcher := (session.executeAll dialect commands).matcher
    Automaton.ofPattern dialect matcher.settings matcher.source = .ok matcher.automaton := by
  obtain ⟨standard, constructed, rfl⟩ := map_eq_ok_iff.1 started
  have starts :
      Session.Follows ⟨standard, 0, #[]⟩
        (MatcherHistory.start.perform dialect .constructStandard).2 := by
    rw [MatcherHistory.perform, constructed]
    exact ⟨rfl, rfl⟩
  obtain ⟨steps, follows⟩ := starts.executeAll dialect commands
  have inStep :=
    ((MatcherHistory.inStep_start dialect).perform .constructStandard).performAll steps
  exact Automaton.ofPattern_eq_ok_iff.2 (inStep.present _ follows.current_eq).automaton_eq

end Session

end TokenPattern
