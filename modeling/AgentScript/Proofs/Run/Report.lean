import AgentScript.Proofs.Run.Code
import AgentScript.Proofs.Text.Blank
import AgentScript.Proofs.Text.Search
import AgentScript.Sandbox.Plain

set_option autoImplicit false

/-! # How a run reports the failure of code

A sandbox puts a mark in front of what it says of a failure, and the run takes off everything up to
the first mark. What a sandbox says is reported whole nevertheless, also if the mark comes again in
it (`RunM.stripMark_message`). So the error of a run tells the description of whatever has failed
inside a sandbox, as it leaves the work of the code (`runScript_reports`). -/

namespace AgentScript

/-! ## The mark in front -/

namespace RunM

theorem startsOnce_sandboxMark : Text.StartsOnce sandboxMark.toList := by
  decide +kernel

/-- Of the text of a sandbox failure the mark and the blanks at its ends are taken off, and nothing
    else. -/
theorem stripMark_message (detail : String) :
    stripMark (Failure.sandbox detail).message = Text.strip detail := by
  have hmessage : (Failure.sandbox detail).message = "" ++ sandboxMark ++ (" " ++ detail) := by
    rw [String.empty_append, ← String.append_assoc]
    rfl
  have hfirst : ¬ sandboxMark.toList <:+: "".toList := by
    decide +kernel
  have hblank : ∀ c ∈ [' '], Text.isBlank c := List.forall_mem_singleton.2 (by decide)
  have hstrip : Text.strip (" " ++ detail) = Text.strip detail := by
    rw [Text.strip, Text.strip, String.toList_append]
    exact congrArg String.ofList (Text.stripChars_blanks_append hblank detail.toList)
  rw [stripMark, (Text.cutAt_eq_some_iff startsOnce_sandboxMark).2 ⟨hmessage, hfirst⟩]
  exact hstrip

/-- A text without the mark stays as it is. -/
theorem stripMark_of_not_occursIn {message : String}
    (h : ¬ Text.occursIn sandboxMark message) : stripMark message = message := by
  rw [stripMark, Text.cutAt_eq_none_iff.2 (mt Text.occursIn_iff.2 h)]

end RunM

theorem Failure.strip_describe (f : Failure) : Text.strip f.describe = f.describe :=
  Text.strip_strip _

/-! ## Work inside a sandbox -/

/-- What follows up an activity begins with its result, after the outputs that it has set. -/
theorem Activity.result_andThen (a : Activity) (f : Except Failure Value → Activity) (run : Run) :
    (a.andThen f).result run = (f (a.result run)).result (run.setOutputs (a.outputs run)) := by
  induction a generalizing run with
  | finish result => rfl
  | read key next ih => exact ih _ run
  | write key value next ih => exact ih _ (run.setOutput key value)
  | note message next ih => exact ih run

theorem Activity.result_mapError (a : Activity) (f : Failure → Failure) (run : Run) :
    (a.mapError f).result run = (a.result run).mapError f :=
  a.result_andThen _ run

namespace Sandbox

/-- A failure inside a sandbox leaves it as a description, unless it interrupts everything. -/
theorem leaveCode_eq_sandbox {f : Failure} (hkeyboard : f.kind ≠ "KeyboardInterrupt")
    (hcancelled : f.kind ≠ "asyncio.exceptions.CancelledError") :
    leaveCode f = .sandbox f.describe := by
  rw [leaveCode, if_neg (by simp [hkeyboard, hcancelled])]

theorem result_leaving_error {work : Activity} {run : Run} {f : Failure}
    (h : work.result run = .error f) (hkeyboard : f.kind ≠ "KeyboardInterrupt")
    (hcancelled : f.kind ≠ "asyncio.exceptions.CancelledError") :
    (leaving work).result run = .error (.sandbox f.describe) := by
  rw [leaving, Activity.result_mapError, h, ← leaveCode_eq_sandbox hkeyboard hcancelled]
  rfl

theorem Engine.result_noting (notes : List String) (a : Activity) (run : Run) :
    (Engine.noting notes a).result run = a.result run := by
  induction notes with
  | nil => rfl
  | cons note rest ih => exact ih

namespace Language

variable (l : Language)

theorem run_ready (e : Engine) (code : String) : (l.run e code).2.ready := by
  unfold run
  generalize l.start e code = started
  rfl

/-- Once it has been prepared, the engine stays ready. -/
theorem after_ready {e : Engine} (h : e.ready) (codes : List String) : (l.after e codes).ready := by
  unfold after
  induction codes generalizing e with
  | nil => exact h
  | cons code rest ih =>
      rw [List.foldl_cons]
      exact ih (l.run_ready e code)

theorem run_of_ready {e : Engine} (h : e.ready) (code : String) :
    (l.run e code).1 = leaving (l.start e code).1 := by
  have hnotes : e.bootNotes = [] := if_pos h
  unfold run
  generalize l.start e code = started
  rw [hnotes]
  rfl

/-- All that the engine does with code is seen from outside as that of a sandbox. -/
theorem sandbox_run (earlier : List String) (code : String) :
    l.sandbox.run earlier code
      = leaving (l.start (l.after { ready := true } earlier) code).1 :=
  l.run_of_ready (l.after_ready rfl earlier) code

end Language

end Sandbox

/-! ## The error of a run -/

/-- What a run says of code that has failed. -/
def codeError (reason : String) : String :=
  "Python Logic Error:\n" ++ reason

theorem notice_codeFailed (reason : String) :
    (Failure.command "execute" (.codeFailed reason)).notice = codeError reason := by
  have hmessage : (Failure.command "execute" (.codeFailed reason)).message = codeError reason := rfl
  have hspeaks : codeError reason ≠ "" := fun hempty =>
    absurd (String.append_eq_empty_iff.1 hempty).1 (by decide)
  rw [Failure.notice, hmessage, if_neg hspeaks]

/-- The failure of an execution whose code has failed for an ordinary reason. -/
theorem Run.executed_error {run : Run} {activity : Activity} {f : Failure}
    (h : activity.result run = .error f) (hf : IsOrdinary f) :
    (run.executed activity).1
      = .error (.command "execute" (.codeFailed (RunM.stripMark f.awaited.message))) := by
  have hreport : RunM.executeFailure (fun message => .codeFailed (RunM.stripMark message)) f
      = .command "execute" (.codeFailed (RunM.stripMark f.awaited.message)) := by
    rw [RunM.executeFailure]
    exact if_pos hf
  unfold Run.executed
  rw [h]
  exact congrArg Except.error hreport

/-- A run that ends by reporting that code has failed for some reason. -/
def EndsWithCodeError (r : Except Failure Unit × Run) (reason : String) : Prop :=
  r.1 = .ok () ∧ r.2.error = some (codeError reason)

/-- How a run that reaches this end reports the failure of code which began in the state `before`. -/
structure Activity.Reports (activity : Activity) (before : Run) (r : Except Failure Unit × Run) :
    Prop where
  /-- Whatever fails inside a sandbox is described, unless it interrupts everything. -/
  described : ∀ work f, activity = Sandbox.leaving work → work.result before = .error f →
    f.kind ≠ "KeyboardInterrupt" → f.kind ≠ "asyncio.exceptions.CancelledError" →
      EndsWithCodeError r f.describe
  /-- A failure of the code itself reaches the sandbox as it reaches everyone who waits for the code. -/
  awaited : ∀ notes body f,
    activity = Sandbox.leaving (Sandbox.Engine.noting notes (Sandbox.awaiting body)) →
      body.result before = .error f →
      f.kind ≠ "KeyboardInterrupt" → f.kind ≠ "asyncio.exceptions.CancelledError" →
        EndsWithCodeError r f.awaited.describe
  /-- Any other ordinary failure of a sandbox is told by its text, if that is without the mark. -/
  told : ∀ f, activity.result before = .error f → IsOrdinary f →
    ¬ Text.occursIn sandboxMark f.awaited.message → EndsWithCodeError r f.awaited.message

theorem Failure.awaited_kind_ne {f : Failure} {kind : String} (h : f.kind ≠ kind)
    (hruntime : "RuntimeError" ≠ kind) : f.awaited.kind ≠ kind := by
  unfold Failure.awaited
  split
  · exact hruntime
  · exact h

/-- The failure of code is reported if the run tells the reason that is left without the mark. -/
theorem Activity.reports {activity : Activity} {before : Run} {r : Except Failure Unit × Run}
    (h : ∀ f, activity.result before = .error f → IsOrdinary f →
      EndsWithCodeError r (RunM.stripMark f.awaited.message)) : activity.Reports before r := by
  have hdescribed : ∀ work f, activity = Sandbox.leaving work → work.result before = .error f →
      f.kind ≠ "KeyboardInterrupt" → f.kind ≠ "asyncio.exceptions.CancelledError" →
        EndsWithCodeError r f.describe := by
    rintro work f rfl hf hkeyboard hcancelled
    have hends := h _ (Sandbox.result_leaving_error hf hkeyboard hcancelled) rfl
    have hawaited : (Failure.sandbox f.describe).awaited = .sandbox f.describe :=
      if_neg (by exact (by decide : ¬ ("flowscript.errors.SandboxError" == "StopIteration") = true))
    rwa [hawaited, RunM.stripMark_message, Failure.strip_describe] at hends
  refine ⟨hdescribed, fun notes body f hactivity hf hkeyboard hcancelled => ?_, ?_⟩
  · refine hdescribed _ f.awaited hactivity ?_ ?_ ?_
    · rw [Sandbox.Engine.result_noting, Sandbox.awaiting, Activity.result_mapError, hf]
      rfl
    · exact Failure.awaited_kind_ne hkeyboard (by decide)
    · exact Failure.awaited_kind_ne hcancelled (by decide)
  · intro f hf hordinary hmark
    have hends := h f hf hordinary
    rwa [RunM.stripMark_of_not_occursIn hmark] at hends

/-- The text of a sandbox failure is reported without the mark and the blanks around it, whatever
    else is in it; the engine is such a sandbox, whatever the language of the code. In every run of a
    script, the failure of code is the error of the run: by its description if it failed inside a
    sandbox, and otherwise by its text. -/
theorem runScript_reports :
    (∀ detail, RunM.stripMark (Failure.sandbox detail).message = Text.strip detail)
      ∧ (∀ (l : Sandbox.Language) earlier code, l.sandbox.run earlier code
        = Sandbox.leaving (l.start (l.after { ready := true } earlier) code).1)
      ∧ ∀ (source : String) (prompt : Value) (calls : List Exchange)
        (r : Except Failure Unit × Run), (runScript source prompt).Passes calls r →
          ∃ history, Script.Unfolds source prompt history ∧ Script.Accounts history calls
            ∧ ∀ code activity, ⟨.runCode code, activity⟩ ∈ calls →
              ∃ d ∈ history, ⟨.runCode code, activity⟩ ∈ d.calls ∧ activity.Reports d.before r := by
  refine ⟨RunM.stripMark_message, Sandbox.Language.sandbox_run, fun source prompt calls r h => ?_⟩
  obtain ⟨history, hunfolds, haccounts, hstops⟩ := runScript_unfolds_stops h
  refine ⟨history, hunfolds, haccounts, fun code activity hmem => ?_⟩
  obtain ⟨d, hd, hcall⟩ | hbetween := haccounts.others _ hmem
  · refine ⟨d, hd, hcall, Activity.reports fun f hf hordinary => ?_⟩
    obtain ⟨s, hcarries⟩ := hunfolds.carriesOut hd
    -- the deed has run this code and no other, so it failed as the code did
    obtain ⟨hnone, -⟩ | ⟨_, honce, hends⟩ := hcarries.code
    · cases hnone _ hcall
    · obtain rfl := honce.eq_of_mem hcall
      have houtcome := (congrArg Prod.fst hends).trans (Run.executed_error hf hordinary)
      rw [hstops d hd _ houtcome rfl, notice_codeFailed]
      exact ⟨rfl, rfl⟩
  · cases hbetween

/-- Code that fails with the mark in what it says. -/
def Activity.markedFailure : Activity :=
  .finish (.error (.raised "ValueError" (some "a PythonError: b")))

/-- Collaborators with a sandbox in which all code fails in this way. -/
def Collaborators.markedFailure : Collaborators :=
  { Collaborators.replying fun prompt _ => .ok prompt with
    sandbox := some { boot := fun _ => {}, run := fun _ _ => Sandbox.leaving .markedFailure } }

/-- A script that runs code. -/
def failingScript : String :=
  "start beforePrompt\nexecute(check)\nend beforePrompt"

theorem runScript_reports_markedFailure :
    ∃ calls r, (runScript failingScript (.str "")).Passes calls r
      ∧ (∃ code, ⟨.runCode code, Sandbox.leaving .markedFailure⟩ ∈ calls)
      ∧ EndsWithCodeError r "ValueError: a PythonError: b" := by
  obtain ⟨calls, hpass, hjournal⟩ := World.play_passes
    .markedFailure (.initial {} 0) (runScript failingScript (.str ""))
  have hruns : ((World.initial {} 0).play .markedFailure
      (runScript failingScript (.str ""))).2.journal.any (fun e => e.code?.isSome) := by
    decide +kernel
  have hreplies := World.play_forall_journal (c := .markedFailure) (w := .initial {} 0)
    (P := fun e => ∀ code, e.code? = some code →
      e = ⟨.runCode code, Sandbox.leaving .markedFailure⟩)
    (fun w q code hcode => by cases q <;> cases hcode; rfl) (List.forall_mem_nil _)
    (runScript failingScript (.str ""))
  obtain ⟨e, he, hcode⟩ := List.any_eq_true.1 hruns
  obtain ⟨code, hcode⟩ := Option.isSome_iff_exists.1 hcode
  have hmem := hreplies e he code hcode
  rw [hmem, hjournal] at he
  have hcall := (List.mem_filter.1 he).1
  obtain ⟨-, -, hreports⟩ := runScript_reports
  obtain ⟨_, -, -, hcalls⟩ := hreports _ _ _ _ hpass
  obtain ⟨d, -, -, hd⟩ := hcalls _ _ hcall
  have hends := hd.described .markedFailure _ rfl rfl (by decide) (by decide)
  have hdescribe : (Failure.raised "ValueError" (some "a PythonError: b")).describe
      = "ValueError: a PythonError: b" := by decide +kernel
  rw [hdescribe] at hends
  exact ⟨calls, _, hpass, ⟨code, hcall⟩, hends⟩

/-- How the failure of an activity is described, if it fails in a state. -/
def Activity.description? (a : Activity) (run : Run) : Option String :=
  match a.result run with
  | .ok _ => none
  | .error f => some f.describe

/-- Code that fails with the signal that nothing is left to iterate. -/
def stoppingCode : String :=
  "raise StopIteration(\"boom\")"

/-- Collaborators with the engine for the plain language as their sandbox. -/
def Collaborators.withEngine : Collaborators :=
  { Collaborators.replying fun prompt _ => .ok prompt with sandbox := some Sandbox.Engine.sandbox }

/-- The signal would be described with what it says, but this is not what the run reports. -/
theorem World.play_stoppingCode :
    ((Sandbox.treesOf (Sandbox.wrapCode stoppingCode) >>=
        Sandbox.Plain.instructionsOf).toOption.bind fun instructions =>
          (Sandbox.runInstructions {} instructions .finish).description? (.start (.str "")))
        = some "StopIteration: boom"
      ∧ ((initial {} 0).play .withEngine (runScript
          ("start beforePrompt\nexecute(" ++ stoppingCode ++ ")\nend beforePrompt")
          (.str ""))).1.2.error = some (codeError "RuntimeError: coroutine raised StopIteration")
      ∧ codeError "RuntimeError: coroutine raised StopIteration"
        ≠ codeError "StopIteration: boom" := by
  decide +kernel

end AgentScript
