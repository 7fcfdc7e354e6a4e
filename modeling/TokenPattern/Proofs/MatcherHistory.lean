import TokenPattern.Proofs.Embodiment
import TokenPattern.Session

namespace TokenPattern

/-!
# Matchers stay in step with their source

A matcher is constructed, given other sources and other tokenizers and asked for
matches, in any order and with failures in between.  Which of these steps
succeeded is read off their results.  Whatever was done with a matcher, its
automaton is that of its source under its settings, and its parts are those of
the latest steps that succeeded.
-/

/-- A tokenizer with the type of its records. -/
structure AnyTokenizer where
  {ρ : Type}
  [record : Record ρ]
  tokenizer : Tokenizer ρ

/-- A matcher with the type of the records that it cuts texts into. -/
structure AnyMatcher where
  {ρ : Type}
  [record : Record ρ]
  matcher : Matcher ρ

attribute [instance] AnyTokenizer.record AnyMatcher.record

def AnyMatcher.anyTokenizer (any : AnyMatcher) : AnyTokenizer :=
  ⟨any.matcher.tokenizer⟩

/-- What can be done with a matcher. -/
inductive MatcherStep where
  | construct (source flags : String) (settings : Settings)
  | constructStandard
  | setTokenizer (any : AnyTokenizer)
  | recompile (source flags : String)
  /-- Compile one source after the other, each with its flags, up to the first error. -/
  | recompileAll (requests : List (String × String))
  | matchText (text : String)
  | matchRecords {ρ : Type} [Record ρ] (records : Array ρ)
  /-- Put the current automaton aside. -/
  | keep
  /-- Match records with an automaton that was put aside. -/
  | matchKept {ρ : Type} [Record ρ] (index : Nat) (limit : Option Nat) (records : Array ρ)

/-- How a step ends. -/
inductive StepResult where
  | done
  | failed (error : BuildError)
  | answer (result : Except SearchError Bool)
  /-- How the members of a chain ended, as far as they were tried. -/
  | chained (results : List StepResult)
  /-- The automaton that the step put aside. -/
  | keeps (automaton : Automaton)
  /-- There is no matcher, or nothing was put aside under the index. -/
  | nothingThere

namespace StepResult

/-- How a step ends that builds something. -/
def ofBuild {α : Type _} : Except BuildError α → StepResult
  | .ok _ => .done
  | .error error => .failed error

def automaton? : StepResult → Option Automaton
  | .keeps automaton => some automaton
  | _ => none

end StepResult

/-- A step that succeeded in changing the matcher, with what it was given. -/
inductive Success where
  | constructed (source flags : String) (settings : Settings)
  | recompiled (source flags : String)
  | tokenized (any : AnyTokenizer)

namespace Success

def sourceAndFlags? : Success → Option (String × String)
  | .constructed source flags _ => some (source, flags)
  | .recompiled source flags => some (source, flags)
  | .tokenized _ => none

def settings? : Success → Option Settings
  | .constructed _ _ settings => some settings
  | _ => none

/-- A newly constructed matcher cuts texts at spaces. -/
def tokenizer? : Success → Option AnyTokenizer
  | .constructed _ _ settings => some ⟨Tokenizer.spaces settings.defaultAttribute⟩
  | .recompiled _ _ => none
  | .tokenized any => some any

end Success

namespace MatcherStep

/-- Compiling a source succeeded if its result is that it is done. -/
def recompiled (request : String × String) : StepResult → List Success
  | .done => [.recompiled request.1 request.2]
  | _ => []

/-- The changes to the matcher in which a step succeeded, as its result tells. -/
def successes : MatcherStep → StepResult → List Success
  | .construct source flags settings, .done => [.constructed source flags settings]
  | .constructStandard, .done => [.constructed Matcher.standardSource "" .standard]
  | .setTokenizer any, .done => [.tokenized any]
  | .recompile source flags, result => recompiled (source, flags) result
  | .recompileAll requests, .chained results => (requests.zipWith recompiled results).flatten
  | _, _ => []

end MatcherStep

/-- The changes in which steps succeeded, oldest first, as their results tell. -/
def successesOf (steps : List MatcherStep) (results : List StepResult) : List Success :=
  (steps.zipWith MatcherStep.successes results).flatten

/-- What is read from the latest of the successes that it can be read from. -/
def latest? {α : Type _} (reads : Success → Option α) (successes : List Success) : Option α :=
  (successes.filterMap reads).getLast?

/-- What the steps so far have led to. -/
structure MatcherHistory where
  /-- The matcher, once one was constructed. -/
  current : Option AnyMatcher
  /-- The automata that were put aside, oldest first. -/
  kept : List Automaton

namespace MatcherHistory

/-- Nothing has been done. -/
def start : MatcherHistory :=
  ⟨none, []⟩

/-- Take over a matcher, if building it succeeded. -/
def adopt
    (history : MatcherHistory)
    (built : Except BuildError AnyMatcher) :
    StepResult × MatcherHistory :=
  match built with
  | .ok any => (.done, { history with current := some any })
  | .error error => (.failed error, history)

variable (dialect : Dialect)

def recompile
    (history : MatcherHistory)
    (source flags : String) :
    StepResult × MatcherHistory :=
  match history.current with
  | none => (.nothingThere, history)
  | some any => history.adopt ((any.matcher.recompile dialect source flags).map (⟨·⟩))

def recompileAll :
    List (String × String) →
    MatcherHistory →
    List StepResult × MatcherHistory
  | [], history => ([], history)
  | (source, flags) :: rest, history =>
      match history.recompile dialect source flags with
      | (.done, next) =>
          let (results, last) := recompileAll rest next
          (.done :: results, last)
      | (stopped, next) => ([stopped], next)

def perform (history : MatcherHistory) : MatcherStep → StepResult × MatcherHistory
  | .construct source flags settings =>
      history.adopt ((Matcher.ofSource dialect source flags settings).map (⟨·⟩))
  | .constructStandard => history.adopt ((Matcher.standard dialect).map (⟨·⟩))
  | .setTokenizer any =>
      match history.current with
      | none => (.nothingThere, history)
      | some matched => history.adopt (.ok ⟨matched.matcher.withTokenizer any.tokenizer⟩)
  | .recompile source flags => history.recompile dialect source flags
  | .recompileAll requests =>
      let (results, last) := recompileAll dialect requests history
      (.chained results, last)
  | .matchText text =>
      match history.current with
      | none => (.nothingThere, history)
      | some any => (.answer (any.matcher.matchesText dialect text), history)
  | @MatcherStep.matchRecords _ _ records =>
      match history.current with
      | none => (.nothingThere, history)
      | some any => (.answer (any.matcher.matchesRecords dialect records), history)
  | .keep =>
      match history.current with
      | none => (.nothingThere, history)
      | some any =>
          let automaton := any.matcher.automaton
          (.keeps automaton, { history with kept := history.kept ++ [automaton] })
  | @MatcherStep.matchKept _ _ index limit records =>
      match history.kept[index]? with
      | none => (.nothingThere, history)
      | some automaton => (.answer (automaton.run dialect limit records).verdict.answer, history)

/-- Perform steps one after the other, whatever they end with. -/
def performAll :
    List MatcherStep →
    MatcherHistory →
    List StepResult × MatcherHistory
  | [], history => ([], history)
  | step :: rest, history =>
      let (result, next) := perform dialect history step
      let (results, last) := performAll rest next
      (result :: results, last)

end MatcherHistory

theorem map_eq_ok_iff
    {ε α : Type}
    {β : Type _}
    {f : α → β}
    {result : Except ε α}
    {value : β} :
    result.map f = .ok value ↔ ∃ given, result = .ok given ∧ f given = value := by
  cases result with
  | error error =>
      simp [Except.map]
  | ok given =>
      simp [Except.map]

theorem Automaton.ofPattern_eq_ok_iff
    {dialect : Dialect}
    {settings : Settings}
    {source : String}
    {automaton : Automaton} :
    Automaton.ofPattern dialect settings source = .ok automaton ↔
      ∃ program,
        parse dialect source = .ok program ∧
          Automaton.ofProgram settings.defaultAttribute program = .ok automaton := by
  unfold Automaton.ofPattern
  cases parses : parse dialect source with
  | error error =>
      simp
  | ok program =>
      cases builds : Automaton.ofProgram settings.defaultAttribute program with
      | error error =>
          simp [builds]
      | ok built =>
          simp [builds]

/-- The automaton of a source embodies the tree whose program was parsed. -/
theorem Automaton.exists_embodies_of_ofPattern
    {dialect : Dialect}
    {settings : Settings}
    {source : String}
    {automaton : Automaton}
    (built : Automaton.ofPattern dialect settings source = .ok automaton) :
    ∃ tree holes owned,
      parse dialect source = .ok tree.program ∧
        automaton.Embodies tree holes owned := by
  obtain ⟨program, parses, builds⟩ := Automaton.ofPattern_eq_ok_iff.1 built
  obtain ⟨tree, holes, owned, reads, embodies, _⟩ := Automaton.ofProgram_embodies builds
  have isProgram : tree.program = program :=
    PatternTree.ofProgram?_eq_some_iff.1 reads
  exact ⟨tree, holes, owned, isProgram ▸ parses, embodies⟩

/-- How building from a source ends: as parsing it does, and then building from its program. -/
inductive BuildEnds
    (dialect : Dialect)
    (settings : Settings)
    (source : String) :
    StepResult →
    Prop where
  | done
      {program : List Instruction}
      {automaton : Automaton}
      (parses : parse dialect source = .ok program)
      (builds : Automaton.ofProgram settings.defaultAttribute program = .ok automaton) :
      BuildEnds dialect settings source .done
  | notAPattern
      {error : SyntaxError}
      (refused : parse dialect source = .error error) :
      BuildEnds dialect settings source (.failed (.notAPattern error))
  | notAProgram
      {program : List Instruction}
      {error : ProgramError}
      (parses : parse dialect source = .ok program)
      (refused : Automaton.ofProgram settings.defaultAttribute program = .error error) :
      BuildEnds dialect settings source (.failed (.notAProgram error))

theorem buildEnds_ofPattern
    (dialect : Dialect)
    (settings : Settings)
    (source : String) :
    BuildEnds dialect settings source
      (.ofBuild (Automaton.ofPattern dialect settings source)) := by
  unfold Automaton.ofPattern
  cases parses : parse dialect source with
  | error error =>
      exact .notAPattern parses
  | ok program =>
      cases builds : Automaton.ofProgram settings.defaultAttribute program with
      | error error =>
          simp only [builds]
          exact .notAProgram parses builds
      | ok automaton =>
          simp only [builds]
          exact .done parses builds

@[simp] theorem StepResult.ofBuild_map
    {α : Type _}
    {β : Type _}
    (make : α → β)
    (built : Except BuildError α) :
    ofBuild (built.map make) = ofBuild built := by
  cases built <;> rfl

@[simp] theorem StepResult.automaton?_ofBuild
    {α : Type _}
    (built : Except BuildError α) :
    (ofBuild built).automaton? = none := by
  cases built <;> rfl

@[simp] theorem latest?_append_singleton
    {α : Type _}
    (reads : Success → Option α)
    (front : List Success)
    (last : Success) :
    latest? reads (front ++ [last]) = (reads last).or (latest? reads front) := by
  cases isRead : reads last <;> simp [latest?, isRead]

/-- A matcher is what the latest steps that succeeded have made of it. -/
structure AnyMatcher.InStep
    (dialect : Dialect)
    (successes : List Success)
    (any : AnyMatcher) :
    Prop where
  sourceAndFlags_eq :
    latest? Success.sourceAndFlags? successes = some (any.matcher.source, any.matcher.flags)
  settings_eq : latest? Success.settings? successes = some any.matcher.settings
  tokenizer_eq : latest? Success.tokenizer? successes = some any.anyTokenizer
  /-- The automaton is that of the source under the settings. -/
  automaton_eq :
    ∃ program,
      parse dialect any.matcher.source = .ok program ∧
        Automaton.ofProgram any.matcher.settings.defaultAttribute program =
          .ok any.matcher.automaton

variable {dialect : Dialect}
variable {successes : List Success}

namespace AnyMatcher.InStep

theorem of_ofSource
    {source flags : String}
    {settings : Settings}
    {matcher : Matcher Token}
    (built : Matcher.ofSource dialect source flags settings = .ok matcher) :
    InStep dialect (successes ++ [.constructed source flags settings]) ⟨matcher⟩ := by
  obtain ⟨automaton, builds, isMatcher⟩ := map_eq_ok_iff.1 built
  subst isMatcher
  exact ⟨by simp [Success.sourceAndFlags?], by simp [Success.settings?],
    by simp [Success.tokenizer?, anyTokenizer], Automaton.ofPattern_eq_ok_iff.1 builds⟩

variable {any : AnyMatcher}

theorem recompile
    (inStep : any.InStep dialect successes)
    {source flags : String}
    {matcher : Matcher any.ρ}
    (built : any.matcher.recompile dialect source flags = .ok matcher) :
    InStep dialect (successes ++ [.recompiled source flags]) ⟨matcher⟩ := by
  obtain ⟨automaton, builds, isMatcher⟩ := map_eq_ok_iff.1 built
  subst isMatcher
  exact ⟨by simp [Success.sourceAndFlags?],
    by simpa [Success.settings?] using inStep.settings_eq,
    by simpa [Success.tokenizer?, anyTokenizer] using inStep.tokenizer_eq,
    Automaton.ofPattern_eq_ok_iff.1 builds⟩

theorem withTokenizer
    (inStep : any.InStep dialect successes)
    (other : AnyTokenizer) :
    InStep dialect (successes ++ [.tokenized other])
      ⟨any.matcher.withTokenizer other.tokenizer⟩ :=
  ⟨by simpa [Success.sourceAndFlags?, Matcher.withTokenizer] using inStep.sourceAndFlags_eq,
    by simpa [Success.settings?, Matcher.withTokenizer] using inStep.settings_eq,
    by simp [Success.tokenizer?, anyTokenizer, Matcher.withTokenizer],
    inStep.automaton_eq⟩

/-- A matcher answers as one that is newly constructed from its source and its settings. -/
theorem exists_fresh
    (inStep : any.InStep dialect successes)
    (flags : String) :
    ∃ fresh,
      Matcher.ofSource dialect any.matcher.source flags any.matcher.settings = .ok fresh ∧
        ∀ {ρ : Type} [Record ρ] (records : Array ρ),
          any.matcher.matchesRecords dialect records =
            fresh.matchesRecords dialect records := by
  have builds := Automaton.ofPattern_eq_ok_iff.2 inStep.automaton_eq
  refine ⟨_, map_eq_ok_iff.2 ⟨_, builds, rfl⟩, ?_⟩
  intro ρ _ records
  rfl

end AnyMatcher.InStep

namespace MatcherHistory

/-- There is a matcher that is what the successes have made of it, or nothing has succeeded. -/
structure InStep
    (dialect : Dialect)
    (successes : List Success)
    (history : MatcherHistory) :
    Prop where
  absent : history.current = none → successes = []
  present : ∀ any, history.current = some any → any.InStep dialect successes

variable {history : MatcherHistory}

@[simp] theorem adopt_fst (built : Except BuildError AnyMatcher) :
    (history.adopt built).1 = .ofBuild built := by
  cases built <;> rfl

theorem InStep.adopt
    (inStep : history.InStep dialect successes)
    {built : Except BuildError AnyMatcher}
    {success : Success}
    (tells : StepResult → List Success)
    (tells_done : tells .done = [success])
    (tells_failed : ∀ error, tells (.failed error) = [])
    (fits : ∀ any, built = .ok any → any.InStep dialect (successes ++ [success])) :
    (history.adopt built).2.InStep dialect (successes ++ tells (history.adopt built).1) := by
  cases built with
  | error error =>
      simpa [MatcherHistory.adopt, tells_failed] using inStep
  | ok any =>
      simp only [MatcherHistory.adopt, tells_done]
      refine ⟨by simp, ?_⟩
      intro other isOther
      cases isOther
      exact fits any rfl

theorem InStep.recompile
    (inStep : history.InStep dialect successes)
    (source flags : String) :
    (history.recompile dialect source flags).2.InStep dialect
      (successes ++
        MatcherStep.recompiled (source, flags) (history.recompile dialect source flags).1) := by
  unfold MatcherHistory.recompile
  cases present : history.current with
  | none =>
      simpa [MatcherStep.recompiled] using inStep
  | some any =>
      refine inStep.adopt (MatcherStep.recompiled (source, flags)) rfl (fun _ => rfl) ?_
      intro next built
      obtain ⟨matcher, recompiled, isNext⟩ := map_eq_ok_iff.1 built
      subst isNext
      exact (inStep.present any present).recompile recompiled

/-- A chain keeps a matcher in step with the members that it compiles. -/
theorem InStep.recompileAll
    (inStep : history.InStep dialect successes)
    (requests : List (String × String)) :
    (recompileAll dialect requests history).2.InStep dialect
      (successes ++
        (requests.zipWith MatcherStep.recompiled
          (recompileAll dialect requests history).1).flatten) := by
  induction requests generalizing history successes with
  | nil =>
      simpa [MatcherHistory.recompileAll] using inStep
  | cons request rest inductionHypothesis =>
      have next := inStep.recompile request.1 request.2
      unfold MatcherHistory.recompileAll
      split
      · rename_i after isDone
        simp only [isDone] at next
        simpa [MatcherStep.recompiled] using inductionHypothesis next
      · rename_i stopped after _ isStopped
        simp only [isStopped] at next
        simpa using next

/-- No step takes a matcher out of step. -/
theorem InStep.perform
    (inStep : history.InStep dialect successes)
    (step : MatcherStep) :
    (history.perform dialect step).2.InStep dialect
      (successes ++ step.successes (history.perform dialect step).1) := by
  cases step with
  | construct source flags settings =>
      refine inStep.adopt (MatcherStep.successes (.construct source flags settings))
        rfl (fun _ => rfl) ?_
      intro any built
      obtain ⟨matcher, constructed, isAny⟩ := map_eq_ok_iff.1 built
      subst isAny
      exact .of_ofSource constructed
  | constructStandard =>
      refine inStep.adopt (MatcherStep.successes .constructStandard) rfl (fun _ => rfl) ?_
      intro any built
      obtain ⟨matcher, constructed, isAny⟩ := map_eq_ok_iff.1 built
      subst isAny
      exact .of_ofSource constructed
  | setTokenizer other =>
      dsimp only [MatcherHistory.perform]
      cases present : history.current with
      | none =>
          simpa [MatcherStep.successes] using inStep
      | some any =>
          refine inStep.adopt (MatcherStep.successes (.setTokenizer other))
            rfl (fun _ => rfl) ?_
          intro next isNext
          cases isNext
          exact (inStep.present any present).withTokenizer other
  | recompile source flags =>
      exact inStep.recompile source flags
  | recompileAll requests =>
      exact inStep.recompileAll requests
  | keep =>
      dsimp only [MatcherHistory.perform]
      split
      · simpa [MatcherStep.successes] using inStep
      · exact ⟨by simpa [MatcherStep.successes] using inStep.absent,
          by simpa [MatcherStep.successes] using inStep.present⟩
  | matchText | matchRecords | matchKept =>
      dsimp only [MatcherHistory.perform]
      split <;> simpa [MatcherStep.successes] using inStep

theorem inStep_start (dialect : Dialect) : start.InStep dialect [] where
  absent _ := rfl
  present any isThere := by
    cases isThere

/-- Matchers are in step whatever was done with them. -/
theorem InStep.performAll
    (inStep : history.InStep dialect successes)
    (steps : List MatcherStep) :
    (performAll dialect steps history).2.InStep dialect
      (successes ++ successesOf steps (performAll dialect steps history).1) := by
  induction steps generalizing history successes with
  | nil =>
      simpa [successesOf, MatcherHistory.performAll] using inStep
  | cons step rest inductionHypothesis =>
      have reached := inductionHypothesis (inStep.perform step)
      simpa [successesOf, MatcherHistory.performAll] using reached

/-- Steps behind others go on from where those have led to. -/
theorem performAll_append
    (front back : List MatcherStep)
    (history : MatcherHistory) :
    performAll dialect (front ++ back) history =
      ((performAll dialect front history).1 ++
          (performAll dialect back (performAll dialect front history).2).1,
        (performAll dialect back (performAll dialect front history).2).2) := by
  induction front generalizing history with
  | nil =>
      rfl
  | cons step rest inductionHypothesis =>
      simp [performAll, inductionHypothesis]

/-- What is not adopted changes nothing. -/
theorem adopt_of_silent
    {built : Except BuildError AnyMatcher}
    {success : Success}
    (tells : StepResult → List Success)
    (tells_done : tells .done = [success])
    (silent : tells (history.adopt built).1 = []) :
    (history.adopt built).2 = history := by
  cases built with
  | error error =>
      rfl
  | ok any =>
      simp [MatcherHistory.adopt, tells_done] at silent

theorem recompile_of_silent
    (request : String × String)
    (silent :
      MatcherStep.recompiled request
        (history.recompile dialect request.1 request.2).1 = []) :
    (history.recompile dialect request.1 request.2).2 = history := by
  unfold MatcherHistory.recompile at silent ⊢
  split
  · rfl
  · rename_i any present
    simp only [present] at silent
    exact adopt_of_silent (MatcherStep.recompiled request) rfl silent

/-- A chain of which no member succeeded has changed nothing. -/
theorem recompileAll_of_silent
    {requests : List (String × String)}
    (silent :
      (requests.zipWith MatcherStep.recompiled
        (recompileAll dialect requests history).1).flatten = []) :
    (recompileAll dialect requests history).2 = history := by
  cases requests with
  | nil =>
      rfl
  | cons request rest =>
      unfold recompileAll at silent ⊢
      split
      · rename_i next isDone
        simp [isDone, MatcherStep.recompiled] at silent
      · rename_i stopped next _ isStopped
        have unchanged
            (memberSilent :
              MatcherStep.recompiled request
                (history.recompile dialect request.1 request.2).1 = []) :
            (history.recompile dialect request.1 request.2).2 = history :=
          recompile_of_silent request memberSilent
        simp only [isStopped] at silent unchanged
        exact unchanged (by simpa using silent)

/-- A step whose result tells of no success leaves the matcher as it was. -/
theorem current_perform_of_silent
    {step : MatcherStep}
    (silent : step.successes (history.perform dialect step).1 = []) :
    (history.perform dialect step).2.current = history.current := by
  cases step with
  | construct source flags settings =>
      have unchanged :=
        adopt_of_silent (MatcherStep.successes (.construct source flags settings)) rfl silent
      exact congrArg current unchanged
  | constructStandard =>
      have unchanged :=
        adopt_of_silent (MatcherStep.successes .constructStandard) rfl silent
      exact congrArg current unchanged
  | setTokenizer other =>
      cases present : history.current with
      | none =>
          simp [MatcherHistory.perform, present]
      | some any =>
          simp [MatcherHistory.perform, present, MatcherStep.successes,
            StepResult.ofBuild] at silent
  | recompile source flags =>
      exact congrArg current (recompile_of_silent (source, flags) silent)
  | recompileAll requests =>
      exact congrArg current (recompileAll_of_silent silent)
  | matchText | matchRecords | keep | matchKept =>
      dsimp only [MatcherHistory.perform]
      split <;> rfl

/-- Compile one source. -/
def recompileStep (request : String × String) : MatcherStep :=
  .recompile request.1 request.2

/-- How a chain ends: all its members are done, or nothing is tried behind the first that fails. -/
inductive ChainEnds : List StepResult → List (String × String) → Prop where
  | whole
      {results : List StepResult}
      (allDone : ∀ result ∈ results, result = .done) :
      ChainEnds results []
  | stopped
      {before : List StepResult}
      {last : StepResult}
      {untouched : List (String × String)}
      (allDone : ∀ result ∈ before, result = .done)
      (notDone : last ≠ .done) :
      ChainEnds (before ++ [last]) untouched

theorem ChainEnds.done_cons
    {results : List StepResult}
    {untouched : List (String × String)}
    (ends : ChainEnds results untouched) :
    ChainEnds (.done :: results) untouched := by
  cases ends with
  | whole allDone =>
      exact .whole (List.forall_mem_cons.2 ⟨rfl, allDone⟩)
  | @stopped before last _ allDone notDone =>
      rw [← List.cons_append]
      exact .stopped (List.forall_mem_cons.2 ⟨rfl, allDone⟩) notDone

/-- A chain of sources is compiled as its members are, up to the first that fails. -/
theorem recompileAll_eq
    (dialect : Dialect)
    (requests : List (String × String))
    (history : MatcherHistory) :
    ∃ made untouched,
      requests = made ++ untouched ∧
        recompileAll dialect requests history =
          performAll dialect (made.map recompileStep) history ∧
        ChainEnds (performAll dialect (made.map recompileStep) history).1 untouched := by
  induction requests generalizing history with
  | nil =>
      exact ⟨[], [], rfl, rfl, .whole (by simp [performAll])⟩
  | cons request rest inductionHypothesis =>
      rw [recompileAll]
      split
      · rename_i next isDone
        have isStep : history.perform dialect (recompileStep request) = (.done, next) := isDone
        obtain ⟨made, untouched, isSplit, same, ends⟩ := inductionHypothesis next
        refine ⟨request :: made, untouched, congrArg _ isSplit, ?_, ?_⟩
        · simp only [List.map_cons, performAll, isStep, same]
        · simpa only [List.map_cons, performAll, isStep] using ends.done_cons
      · rename_i stopped next notDone isStopped
        have isStep : history.perform dialect (recompileStep request) = (stopped, next) :=
          isStopped
        have ends : ChainEnds ([] ++ [stopped]) rest :=
          .stopped (by simp) notDone
        refine ⟨[request], rest, rfl, ?_, ?_⟩
        · simp [performAll, isStep]
        · simpa [performAll, isStep] using ends

@[simp] theorem kept_adopt (built : Except BuildError AnyMatcher) :
    (history.adopt built).2.kept = history.kept := by
  cases built <;> rfl

@[simp] theorem kept_recompile (source flags : String) :
    (history.recompile dialect source flags).2.kept = history.kept := by
  unfold MatcherHistory.recompile
  split
  · rfl
  · exact kept_adopt _

@[simp] theorem kept_recompileAll (requests : List (String × String)) :
    (recompileAll dialect requests history).2.kept = history.kept := by
  induction requests generalizing history with
  | nil =>
      rfl
  | cons request rest inductionHypothesis =>
      have same :
          (history.recompile dialect request.1 request.2).2.kept = history.kept :=
        kept_recompile _ _
      unfold recompileAll
      split
      · rename_i next isDone
        simp only [isDone] at same
        exact inductionHypothesis.trans same
      · rename_i stopped next _ isStopped
        simpa only [isStopped] using same

/-- What was put aside stays there, and a step puts aside the automaton that it tells of. -/
theorem kept_perform (step : MatcherStep) :
    (history.perform dialect step).2.kept =
      history.kept ++ (history.perform dialect step).1.automaton?.toList := by
  cases step with
  | construct | constructStandard =>
      simp [MatcherHistory.perform]
  | setTokenizer | recompile =>
      dsimp only [MatcherHistory.perform, MatcherHistory.recompile]
      split
      · simp [StepResult.automaton?]
      · simp
  | recompileAll =>
      simp [MatcherHistory.perform, StepResult.automaton?]
  | matchText | matchRecords | keep | matchKept =>
      dsimp only [MatcherHistory.perform]
      split <;> simp [StepResult.automaton?]

theorem kept_performAll
    (dialect : Dialect)
    (history : MatcherHistory)
    (steps : List MatcherStep) :
    (performAll dialect steps history).2.kept =
      history.kept ++ (performAll dialect steps history).1.filterMap StepResult.automaton? := by
  induction steps generalizing history with
  | nil =>
      simp [performAll]
  | cons step rest inductionHypothesis =>
      simp only [performAll, List.filterMap_cons, inductionHypothesis, kept_perform]
      cases (history.perform dialect step).1.automaton? <;> simp

/-- How the steps end that need a matcher. -/
structure Responds
    (dialect : Dialect)
    (history : MatcherHistory)
    (any : AnyMatcher) :
    Prop where
  recompile :
    ∀ source flags,
      BuildEnds dialect any.matcher.settings source
        (history.perform dialect (.recompile source flags)).1
  setTokenizer : ∀ other, (history.perform dialect (.setTokenizer other)).1 = .done
  matchRecords :
    ∀ {ρ : Type} [Record ρ] (records : Array ρ),
      (history.perform dialect (.matchRecords records)).1 =
        .answer
          (any.matcher.automaton.run dialect any.matcher.settings.stepLimit
            records).verdict.answer
  /-- A text is matched by the tokens that it is cut into. -/
  matchText :
    ∀ text,
      (history.perform dialect (.matchText text)).1 =
        (history.perform dialect
          (.matchRecords (any.matcher.tokenizer.tokenize text).toArray)).1
  keep : (history.perform dialect .keep).1 = .keeps any.matcher.automaton

theorem responds_of_present
    {any : AnyMatcher}
    (present : history.current = some any)
    (dialect : Dialect) :
    history.Responds dialect any where
  recompile source flags := by
    have ends := buildEnds_ofPattern dialect any.matcher.settings source
    simpa [perform, MatcherHistory.recompile, present, Matcher.recompile] using ends
  setTokenizer other := by
    simp [perform, present, StepResult.ofBuild]
  matchRecords records := by
    simp [perform, present, Matcher.matchesRecords, Matcher.runRecords]
  matchText text := by
    simp [perform, present, Matcher.matchesText, Matcher.matchesRecords, Matcher.runText]
  keep := by
    simp [perform, present]

/-- What is known of a matcher after some steps by their results, and of any step that is next. -/
structure Reliable
    (dialect : Dialect)
    (steps : List MatcherStep)
    (results : List StepResult)
    (history : MatcherHistory) :
    Prop where
  /-- Whatever the steps have ended with, any other can be performed behind them. -/
  goesOn :
    ∀ step,
      performAll dialect (steps ++ [step]) start =
        (results ++ [(history.perform dialect step).1], (history.perform dialect step).2)
  /-- The matcher is that of the successes of which the results tell. -/
  inStep : history.InStep dialect (successesOf steps results)
  construct :
    ∀ source flags settings,
      BuildEnds dialect settings source
        (history.perform dialect (.construct source flags settings)).1
  constructStandard :
    BuildEnds dialect .standard Matcher.standardSource
      (history.perform dialect .constructStandard).1
  responds : ∀ any, history.current = some any → history.Responds dialect any
  /-- The flags do not matter, nor do the steps that have led to the source. -/
  fresh :
    ∀ any,
      history.current = some any →
        ∀ flags, ∃ fresh,
          Matcher.ofSource dialect any.matcher.source flags any.matcher.settings = .ok fresh ∧
            ∀ {ρ : Type} [Record ρ] (records : Array ρ),
              (history.perform dialect (.matchRecords records)).1 =
                .answer (fresh.matchesRecords dialect records)
  /-- A step whose result tells of no success, as that of one that fails, changes nothing. -/
  unchanged :
    ∀ step,
      step.successes (history.perform dialect step).1 = [] →
        (history.perform dialect step).2.current = history.current
  /-- A chain of sources is compiled as its members are, up to the first that fails. -/
  chain :
    ∀ requests, ∃ made untouched,
      requests = made ++ untouched ∧
        history.perform dialect (.recompileAll requests) =
          (.chained (performAll dialect (made.map recompileStep) history).1,
            (performAll dialect (made.map recompileStep) history).2) ∧
        ChainEnds (performAll dialect (made.map recompileStep) history).1 untouched
  /-- The automata that were put aside are those that steps told of. -/
  kept_eq : history.kept = results.filterMap StepResult.automaton?
  matchKept :
    ∀ index automaton,
      history.kept[index]? = some automaton →
        ∀ {ρ : Type} [Record ρ] (limit : Option Nat) (records : Array ρ),
          (history.perform dialect (.matchKept index limit records)).1 =
            .answer (automaton.run dialect limit records).verdict.answer
  /-- An automaton that was put aside answers as it did before any later step. -/
  kept :
    ∀ later index,
      index < history.kept.length →
        ∀ {ρ : Type} [Record ρ] (limit : Option Nat) (records : Array ρ),
          ((performAll dialect later history).2.perform dialect
              (.matchKept index limit records)).1 =
            (history.perform dialect (.matchKept index limit records)).1

/-- Whatever was done with a matcher, it can be relied on. -/
theorem reliable_performAll
    (dialect : Dialect)
    (steps : List MatcherStep) :
    Reliable dialect steps (performAll dialect steps start).1
      (performAll dialect steps start).2 where
  goesOn step := by
    simp [performAll_append, performAll]
  inStep := (inStep_start dialect).performAll steps
  construct source flags settings := by
    have ends := buildEnds_ofPattern dialect settings source
    simpa [perform, Matcher.ofSource] using ends
  constructStandard := by
    have ends := buildEnds_ofPattern dialect .standard Matcher.standardSource
    simpa [perform, Matcher.standard, Matcher.ofSource] using ends
  responds any present := responds_of_present present dialect
  fresh any present flags := by
    have inStep := ((inStep_start dialect).performAll steps).present any present
    obtain ⟨fresh, built, answers⟩ := inStep.exists_fresh flags
    refine ⟨fresh, built, ?_⟩
    intro ρ _ records
    simp [perform, present, answers]
  unchanged step silent := current_perform_of_silent silent
  chain requests := by
    obtain ⟨made, untouched, isSplit, same, ends⟩ :=
      recompileAll_eq dialect requests (performAll dialect steps start).2
    exact ⟨made, untouched, isSplit, by simp only [perform, same], ends⟩
  kept_eq := by
    simpa [start] using kept_performAll dialect start steps
  matchKept index automaton found _ _ limit records := by
    simp [perform, found]
  kept later index inRange ρ _ limit records := by
    have laterKept := kept_performAll dialect (performAll dialect steps start).2 later
    have found := List.getElem?_eq_getElem inRange
    simp [perform, laterKept, List.getElem?_append_left inRange, found]

/-- A chain keeps what it compiled before its first error, and tries nothing behind it. -/
example :
    let steps : List MatcherStep :=
      [.construct "a" "" .standard, .recompileAll [("b", "i"), ("(", ""), ("c", "")]]
    successesOf steps (performAll .standard steps start).1 =
      [.constructed "a" "" .standard, .recompiled "b" "i"] := by
  cbv

end MatcherHistory

end TokenPattern
