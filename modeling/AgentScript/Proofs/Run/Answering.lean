import AgentScript.Proofs.Run.Action
import AgentScript.Proofs.Run.World

set_option autoImplicit false

/-! # Making the answer

Between the block before the prompt and the block after it, a script makes its answer. An override
gives it without asking anybody, or else the prompt block is sent to the generator, once, and its
reply is the answer (`World.play_runScript_answering`). A block with nothing in it counts as absent,
so an empty override does not keep the prompt from being sent
(`World.play_emptyOverride_replied`). -/

namespace AgentScript

open Script

/-- A block that is absent or has nothing in it. -/
def Script.IsIdle (block : Option String) : Prop :=
  block = none ∨ block = some ""

theorem Command.nonempty?_of_isIdle {block : Option String} (h : IsIdle block) :
    nonempty? block = none := by
  rcases h with rfl | rfl <;> rfl

/-- The run after a text has become the answer. -/
def Run.answered (run : Run) (text : String) : Run :=
  { run with context := run.context.put "answer" (.str text) }

theorem Run.answer_answered (run : Run) (text : String) :
    (run.answered text).context.answer = .ok text := by
  have hget : (run.answered text).context.get? "answer" = some (.str text) :=
    Bindings.get?_put_self _ _ _
  rw [Context.answer, hget]
  rfl

/-! ## The phases around the answer -/

namespace RunM

/-- What a script does before it makes the answer. -/
def opening (blocks : Blocks) : RunM Unit := do
  trace 1 ("blocks: " ++ blocks.shown)
  runBlock? "run beforePrompt" blocks.beforePrompt

/-- What a script does after it has made the answer. -/
def closing (blocks : Blocks) : RunM Unit := do
  runBlock? "run afterPrompt" blocks.afterPrompt
  postAnswer

theorem phases_eq (source : String) :
    phases source = (do
      opening (.ofText source)
      produceAnswer (.ofText source)
      closing (.ofText source)) := by
  simp only [phases, opening, closing, bind_assoc]

end RunM

/-- What is left of a script when its answer has been made. -/
def Run.close (run : Run) (blocks : Blocks) : Dialogue (Except Failure Unit × Run) :=
  (RunM.closing blocks).from run >>= Run.conclude

section

variable {blocks : Blocks} {run : Run} {text resolved : String}

/-- An override becomes the answer, and nothing is asked. -/
theorem RunM.from_produceAnswer_override (h : blocks.overridePrompt = some text) (hne : text ≠ "")
    (hresolve : run.context.resolve text = .ok resolved) :
    (produceAnswer blocks).from run = .done (.ok (), run.answered resolved) := by
  rw [produceAnswer, h, Command.nonempty?_of_ne hne]
  exact from_resolve_bind_ok hresolve _

/-- Without any text to make it from, the answer stays what it is, and nothing is asked. -/
theorem RunM.from_produceAnswer_idle (hoverride : IsIdle blocks.overridePrompt)
    (hprompt : IsIdle blocks.prompt) : (produceAnswer blocks).from run = .done (.ok (), run) := by
  rw [produceAnswer, Command.nonempty?_of_isIdle hoverride, Command.nonempty?_of_isIdle hprompt]
  rfl

namespace World

variable (c : Collaborators) (w : World)

/-- The world after the prompt of a script has been announced. -/
def announced : World :=
  (w.answer c (.logAction "Asking AI...")).2

theorem announced_generations :
    (w.announced c).journal.filterMap Exchange.generation?
      = w.journal.filterMap Exchange.generation? := by
  rw [announced, answer_journal, List.filterMap_append]
  exact List.append_nil _

/-- The world after the prompt of a script has been sent. -/
def prompted (prompt : String) : World :=
  ((w.announced c).answer c (.generate prompt none)).2

theorem prompted_journal {prompt reply : String}
    (hreply : c.generator (w.journal.filterMap Exchange.generation?) prompt none = .ok reply) :
    (w.prompted c prompt).journal
      = w.journal ++ [⟨.logAction "Asking AI...", ()⟩, ⟨.generate prompt none, .ok reply⟩] := by
  have hanswer : ((w.announced c).answer c (.generate prompt none)).1 = .ok reply := by
    rw [← hreply, ← announced_generations c w]
    rfl
  rw [prompted, answer_journal, hanswer, announced, answer_journal, List.append_assoc]
  rfl

/-- The prompt block is announced and sent, and the reply becomes the answer. -/
theorem play_produceAnswer_prompt (hoverride : IsIdle blocks.overridePrompt)
    (hprompt : blocks.prompt = some text) (hne : text ≠ "")
    (hresolve : run.context.resolve text = .ok resolved) {reply : String}
    (hreply : c.generator (w.journal.filterMap Exchange.generation?) resolved none = .ok reply) :
    w.play c ((RunM.produceAnswer blocks).from run)
      = (if Text.beginsWith "Error" reply then (.error (.script (.requestFailed reply)), run)
          else (.ok (), run.answered reply), w.prompted c resolved) := by
  have hsend : (RunM.produceAnswer blocks).from run
      = .ask (.logAction "Asking AI...") fun _ =>
        (RunM.generate resolved none (fun reply => .script (.requestFailed reply))
          >>= RunM.setAnswer).from run := by
    rw [RunM.produceAnswer, Command.nonempty?_of_isIdle hoverride, hprompt,
      Command.nonempty?_of_ne hne]
    exact RunM.from_resolve_bind_ok hresolve _
  rw [← announced_generations c w] at hreply
  rw [hsend, play_ask, RunM.from_bind, play_bind]
  change World.play c (World.play c (w.announced c) _).2 (RunM.andThen _
    (World.play c (w.announced c) _).1) = _
  rw [play_generate_ok c _ hreply]
  split <;> rfl

end World

end

/-! ## Scripts -/

namespace World

section

variable {c : Collaborators} {w between after : World} {source : String} {prompt : Value}
  {run : Run} {r : Except Failure Unit × Run}

/-- The phases of a script are played in turn. -/
theorem play_runScript_of_opening
    (hopening : w.play c ((RunM.opening (.ofText source)).from (.start prompt))
      = ((.ok (), run), between))
    (hanswer : between.play c ((RunM.produceAnswer (.ofText source)).from run) = (r, after)) :
    w.play c (runScript source prompt)
      = after.play c (RunM.andThen (fun _ => RunM.closing (.ofText source)) r
        >>= Run.conclude) := by
  rw [runScript_eq_conclude, RunM.phases_eq]
  generalize Blocks.ofText source = blocks at hopening hanswer ⊢
  rw [RunM.from_bind, bind_assoc, play_bind, hopening]
  show between.play c ((RunM.produceAnswer blocks >>= fun _ => RunM.closing blocks).from run
    >>= Run.conclude) = _
  rw [RunM.from_bind, bind_assoc, play_bind, hanswer]

/-- A run whose prompt has been refused notes the reply and posts it. -/
theorem play_conclude_requestFailed (reply : String) :
    (w.play c (Run.conclude (.error (.script (.requestFailed reply)), run))).1
        = (.ok (), { run with error := some ("AI Request Failed: " ++ reply) })
      ∧ (w.play c (Run.conclude (.error (.script (.requestFailed reply)), run))).2.journal
        = w.journal ++ [.ofPost (.ofFailure (.script (.requestFailed reply)))] := by
  have hmessage : "AI Request Failed: " ++ reply ≠ "" := by simp
  have hnotice : (Failure.script (.requestFailed reply)).notice
      = "AI Request Failed: " ++ reply := if_neg hmessage
  rw [← hnotice]
  exact ⟨rfl, rfl⟩

end

end World

/-- How a script goes on in the middle, once the block before the prompt has been run. If there is
    something in the override, it becomes the answer, and nothing is asked. Otherwise, if there is
    something in the prompt block, it is sent to the generator, in the one request for text that is
    put here, without an instruction: the reply becomes the answer, or the reason why the run fails
    if it reports an error. Otherwise nothing is asked, and the answer stays what it is. -/
theorem World.play_runScript_answering (c : Collaborators) {w between : World} {source : String}
    {prompt : Value} {run : Run}
    (hopening : w.play c ((RunM.opening (.ofText source)).from (.start prompt))
      = ((.ok (), run), between)) :
    (∀ text resolved, (Blocks.ofText source).overridePrompt = some text → text ≠ "" →
        run.context.resolve text = .ok resolved →
        w.play c (runScript source prompt)
            = between.play c ((run.answered resolved).close (.ofText source))
          ∧ (run.answered resolved).context.answer = .ok resolved)
      ∧ (∀ text resolved reply, IsIdle (Blocks.ofText source).overridePrompt →
        (Blocks.ofText source).prompt = some text → text ≠ "" →
        run.context.resolve text = .ok resolved →
        c.generator (between.journal.filterMap Exchange.generation?) resolved none = .ok reply →
        ∃ after : World,
          after.workspace = between.workspace.logAction "Asking AI..."
            ∧ after.journal = between.journal
              ++ [⟨.logAction "Asking AI...", ()⟩, ⟨.generate resolved none, .ok reply⟩]
            ∧ (¬ Text.beginsWith "Error" reply →
              w.play c (runScript source prompt)
                  = after.play c ((run.answered reply).close (.ofText source))
                ∧ (run.answered reply).context.answer = .ok reply)
            ∧ (Text.beginsWith "Error" reply →
              (w.play c (runScript source prompt)).1
                  = (.ok (), { run with error := some ("AI Request Failed: " ++ reply) })
                ∧ (w.play c (runScript source prompt)).2.journal = after.journal
                  ++ [.ofPost (.ofFailure (.script (.requestFailed reply)))]))
      ∧ (IsIdle (Blocks.ofText source).overridePrompt → IsIdle (Blocks.ofText source).prompt →
        w.play c (runScript source prompt) = between.play c (run.close (.ofText source))) := by
  refine ⟨fun text resolved htext hne hresolve => ⟨?_, run.answer_answered resolved⟩,
    fun text resolved reply hoverride htext hne hresolve hreply => ?_,
    fun hoverride hidle => ?_⟩
  · refine play_runScript_of_opening hopening (r := (.ok (), run.answered resolved)) ?_
    rw [RunM.from_produceAnswer_override htext hne hresolve]
    rfl
  · have hanswer := play_produceAnswer_prompt c between hoverride htext hne hresolve hreply
    refine ⟨between.prompted c resolved, rfl, prompted_journal c between hreply,
      fun herror => ⟨?_, run.answer_answered reply⟩, fun herror => ?_⟩
    · rw [if_neg herror] at hanswer
      exact play_runScript_of_opening hopening hanswer
    · rw [if_pos herror] at hanswer
      rw [play_runScript_of_opening hopening hanswer]
      exact play_conclude_requestFailed reply
  · refine play_runScript_of_opening hopening (r := (.ok (), run)) ?_
    rw [RunM.from_produceAnswer_idle hoverride hidle]
    rfl

/-- A script that greets before its prompt is sent. -/
def letter : String :=
  "start beforePrompt\nlog(\"hi\")\nend beforePrompt\nstart Prompt\nDear [prompt]\nend Prompt"

/-- How far the letter has come when its answer is to be made, and the world by then. -/
def letterOpened : (Except Failure Unit × Run) × World :=
  (World.initial {} 0).play (.replying fun prompt _ => .ok prompt)
    ((RunM.opening (.ofText letter)).from (.start (.str "you")))

theorem World.play_runScript_answering_letter :
    (initial {} 0).play (.replying fun prompt _ => .ok prompt)
          ((RunM.opening (.ofText letter)).from (.start (.str "you")))
        = ((.ok (), letterOpened.1.2), letterOpened.2)
      ∧ IsIdle (Blocks.ofText letter).overridePrompt
      ∧ (Blocks.ofText letter).prompt = some "Dear [prompt]"
      ∧ letterOpened.1.2.context.resolve "Dear [prompt]" = .ok "Dear you"
      ∧ ¬ Text.beginsWith "Error" "Dear you"
      ∧ ∃ after : World, after.workspace = letterOpened.2.workspace.logAction "Asking AI..."
        ∧ after.journal = letterOpened.2.journal
          ++ [⟨.logAction "Asking AI...", ()⟩, ⟨.generate "Dear you" none, .ok "Dear you"⟩]
        ∧ (initial {} 0).play (.replying fun prompt _ => .ok prompt)
            (runScript letter (.str "you"))
          = after.play (.replying fun prompt _ => .ok prompt)
            ((letterOpened.1.2.answered "Dear you").close (.ofText letter)) := by
  have hok : letterOpened.1.1 = .ok () := by with_unfolding_all rfl
  have hopening : (initial {} 0).play (.replying fun prompt _ => .ok prompt)
      ((RunM.opening (.ofText letter)).from (.start (.str "you")))
        = ((.ok (), letterOpened.1.2), letterOpened.2) :=
    Prod.ext (Prod.ext hok rfl) rfl
  have hidle : IsIdle (Blocks.ofText letter).overridePrompt := .inl (by decide +kernel)
  have htext : (Blocks.ofText letter).prompt = some "Dear [prompt]" := by decide +kernel
  have hresolve : letterOpened.1.2.context.resolve "Dear [prompt]" = .ok "Dear you" := by
    with_unfolding_all rfl
  have herror : ¬ Text.beginsWith "Error" "Dear you" := by decide
  obtain ⟨-, hprompt, -⟩ := play_runScript_answering _ hopening
  obtain ⟨after, hworkspace, hjournal, hreplied, -⟩ :=
    hprompt _ _ "Dear you" hidle htext (by decide) hresolve rfl
  exact ⟨hopening, hidle, htext, hresolve, herror, after, hworkspace, hjournal,
    (hreplied herror).1⟩

/-- A script with an override that has nothing in it. -/
def emptyOverride : String :=
  "start overridePrompt\nend overridePrompt\nstart Prompt\nhi\nend Prompt"

/-- An empty override is read, and yet the prompt is sent and its reply is the answer. -/
theorem World.play_emptyOverride_replied :
    (Blocks.ofText emptyOverride).overridePrompt = some ""
      ∧ ((initial {} 0).play (.replying fun prompt _ => .ok prompt)
        (runScript emptyOverride (.str ""))).1.1.toOption = some ()
      ∧ ((initial {} 0).play (.replying fun prompt _ => .ok prompt)
        (runScript emptyOverride (.str ""))).1.2.context.answer.toOption = some "hi"
      ∧ ((initial {} 0).play (.replying fun prompt _ => .ok prompt)
        (runScript emptyOverride (.str ""))).2.journal.filterMap Exchange.generation?
        = [("hi", none)] := by
  decide +kernel

end AgentScript
