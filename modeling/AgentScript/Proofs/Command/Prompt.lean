import AgentScript.Proofs.Run.World
import AgentScript.Proofs.Script.Quotes

set_option autoImplicit false

/-! # The prompt of a call

The prompt of `runAI` may be written as a parameter or by itself, between quotes of either style
(`ofCall_runAI_written`). The arguments are searched for the parameter first, so text between triple
quotes must not have one in it; and a parameter that is empty counts as none, so that the whole of
it is taken for a text of its own (`ofCall_runAI_emptyParameter`). -/

namespace AgentScript

open Script (QuoteStyle WrittenParameter namedParameters stripQuotes tripleQuote)
open Text (isBlank)

/-! ## Reading the prompt -/

namespace Script.WrittenParameter

variable (p : WrittenParameter)

/-- A parameter begins with a word and ends with a quote. -/
theorem exists_pair_eq : ∃ c mid, Text.isWordChar c ∧ p.pair = c :: (mid ++ ['"']) := by
  obtain ⟨c, word, hword⟩ : ∃ c word, p.name.toList = c :: word :=
    List.exists_cons_of_ne_nil fun hnil => p.name_ne_empty (String.toList_eq_nil_iff.1 hnil)
  have hc : Text.isWordChar c := p.name_word c (hword ▸ List.mem_cons_self)
  obtain ⟨quotes, hquotes⟩ : ∃ quotes, p.style.marks = quotes ++ ['"'] := by
    cases p.style with
    | plain => exact ⟨[], rfl⟩
    | triple => exact ⟨['"', '"'], rfl⟩
  refine ⟨c, word ++ (p.before ++ '=' :: (p.after ++ (p.style.marks
    ++ (p.value.toList ++ quotes)))), hc, ?_⟩
  rw [pair, hword, hquotes]
  simp

/-- A parameter that is read as a text of its own keeps its quotes. -/
theorem stripQuotes_text : stripQuotes p.text = String.ofList p.pair := by
  obtain ⟨c, mid, hc, hpair⟩ := p.exists_pair_eq
  have hblank : isBlank c = false := Text.isBlank_of_isWordChar hc
  have hquote : '"' ≠ c := by
    rintro rfl
    exact absurd hc (by decide)
  have hstrip : Text.stripChars (p.gap ++ p.pair) = p.pair := by
    rw [Text.stripChars_blanks_append p.gap_blank, hpair,
      Text.stripChars_of_ends hblank (by decide)]
  have hnone (quote : List Char) : between? ('"' :: quote) p.pair = none := by
    refine if_neg fun hquotes => ?_
    simp [hpair, hquote] at hquotes
  have htriple : between? tripleQuote p.pair = none := hnone ['"', '"']
  rw [stripQuotes, text, String.toList_ofList, hstrip, htriple, hnone]
  rfl

/-- The only parameter of a text is read back. -/
theorem get?_namedParameters : (namedParameters p.text).get? p.name = some p.value := by
  have htext : ",".intercalate ([p].map (·.text)) = p.text := String.intercalate_singleton
  have hentries : (namedParameters (",".intercalate ([p].map (·.text)))).entries
      = [p].flatMap (entryOf · .triple) ++ [p].flatMap (entryOf · .plain) :=
    Script.namedParameters_entries (List.nodup_singleton p.name)
  rw [htext] at hentries
  rw [Bindings.get?, hentries]
  cases hstyle : p.style <;> simp [entryOf, hstyle, entry, Bindings.lookupIn]

end Script.WrittenParameter

namespace Command

variable {arguments t : String}

theorem promptOf_of_get? {prompt : String}
    (h : (namedParameters arguments).get? "prompt" = some prompt) (hne : prompt ≠ "") :
    promptOf arguments = prompt := by
  rw [promptOf, h, nonempty?_of_ne hne]
  rfl

/-- Without a parameter that has something in it, the prompt is a text of its own. -/
theorem promptOf_eq_stripQuotes
    (h : ∀ prompt, (namedParameters arguments).get? "prompt" = some prompt → prompt = "") :
    promptOf arguments = stripQuotes arguments := by
  rw [promptOf]
  cases hget : (namedParameters arguments).get? "prompt" with
  | none => rfl
  | some prompt =>
      rw [h prompt hget]
      rfl

/-- A text in which something might be read as the parameter: its name and an equals sign stand in
    it. -/
def MentionsPrompt (t : String) : Prop :=
  ∃ gap : List Char, (∀ c ∈ gap, isBlank c) ∧ "prompt".toList ++ (gap ++ ['=']) <:+: t.toList

/-- Between single quotes, the prompt is just what is written. -/
theorem promptOf_enclose_plain (h : '"' ∉ t.toList) :
    promptOf (QuoteStyle.plain.enclose t) = t := by
  rw [promptOf_eq_stripQuotes, QuoteStyle.stripQuotes_enclose .plain fun _ => h]
  intro prompt hprompt
  rw [QuoteStyle.namedParameters_enclose_plain h] at hprompt
  cases hprompt

/-- A parameter is shorter than the text that it is read in. -/
theorem length_le_of_get? {name value : String}
    (h : (namedParameters arguments).get? name = some value) :
    name.length + value.length + 3 ≤ arguments.length := by
  obtain ⟨style, s, after, hs, hread⟩ := Script.exists_read_of_get? h
  obtain ⟨before, gap, -, -, -, -, rfl⟩ := style.eq_of_read hread
  have hmarks : 1 ≤ style.marks.length := by cases style <;> decide
  have hlength := hs.length_le
  simp only [List.length_append, List.length_cons, String.length_toList] at hlength
  omega

/-- Between triple quotes, the prompt is what is written just in case no parameter in it has
    something in it. -/
theorem promptOf_enclose_triple_iff :
    promptOf (QuoteStyle.triple.enclose t) = t
      ↔ ∀ prompt, (namedParameters (QuoteStyle.triple.enclose t)).get? "prompt" = some prompt →
        prompt = "" := by
  constructor
  · intro h prompt hprompt
    by_contra hne
    -- the parameter would be as long as the text around it
    rw [promptOf_of_get? hprompt hne] at h
    have hlength := length_le_of_get? hprompt
    have htext : (QuoteStyle.triple.enclose t).length = t.length + 6 := by
      rw [← String.length_toList, QuoteStyle.toList_enclose]
      simp [QuoteStyle.marks, tripleQuote, String.length_toList]
    have hname : "prompt".length = 6 := rfl
    rw [h, htext, hname] at hlength
    omega
  · intro h
    have hplain : QuoteStyle.triple ≠ .plain := by decide
    rw [promptOf_eq_stripQuotes h,
      QuoteStyle.stripQuotes_enclose .triple fun heq => absurd heq hplain]

theorem get?_enclose_triple (h : ¬ tripleQuote <:+: t.toList) (hmentions : ¬ MentionsPrompt t) :
    (namedParameters (QuoteStyle.triple.enclose t)).get? "prompt" = none := by
  rw [Option.eq_none_iff_forall_ne_some]
  intro prompt hprompt
  obtain ⟨s, after, hs, hread⟩ := Script.exists_read_plain_of_get?
    (fun s hs => QuoteStyle.read_triple_enclose h hs) hprompt
  obtain ⟨before, gap, -, -, hbefore, -, rfl⟩ := QuoteStyle.plain.eq_of_read hread
  generalize gap ++ (QuoteStyle.plain.marks ++ (prompt.toList ++ (QuoteStyle.plain.marks ++ after)))
    = rest at hs
  have hword : "prompt".toList ++ (before ++ ['='])
      <:+: "prompt".toList ++ (before ++ '=' :: rest) := ⟨[], rest, by simp⟩
  have hquote : '"' ∉ "prompt".toList ++ (before ++ ['=']) := by
    have hblank : '"' ∉ before := fun hmem => absurd (hbefore _ hmem) (by decide)
    simp [hblank]
  exact hmentions ⟨before, hbefore, QuoteStyle.infix_of_infix_enclose (by simp) hquote
    (hword.trans hs.isInfix)⟩

/-- A prompt that is written as a parameter is its value; an empty one is the parameter itself. -/
theorem promptOf_text (p : WrittenParameter) (hname : p.name = "prompt") :
    promptOf p.text = if p.value = "" then String.ofList p.pair else p.value := by
  have hget := p.get?_namedParameters
  rw [hname] at hget
  split
  · next hempty =>
      rw [promptOf_eq_stripQuotes, p.stripQuotes_text]
      intro prompt hprompt
      rw [hget] at hprompt
      cases hprompt
      exact hempty
  · next hne => exact promptOf_of_get? hget hne

end Command

/-! ## Asking -/

namespace World

variable (c : Collaborators) (w : World) (run : Run) {arguments : String}

/-- A call whose prompt is empty asks nobody. -/
theorem play_call_runAI_empty (h : Command.promptOf arguments = "") :
    (w.play c ((RunM.call "runAI" arguments).from run)).1
        = (.error (.command "runAI" .promptMissing), run)
      ∧ (w.play c ((RunM.call "runAI" arguments).from run)).2.journal = w.journal := by
  have hcall : (RunM.call "runAI" arguments).from run
      = (RunM.dispatch (.runAI (Command.promptOf arguments))).from run := rfl
  rw [hcall, h]
  exact ⟨rfl, rfl⟩

/-- Nobody is asked when a reply becomes the last result. -/
theorem play_keepReply (r : Except Failure String) :
    (w.play c (RunM.andThen (fun reply => RunM.setResult (.str reply)) (r, run))).2 = w := by
  cases r <;> rfl

/-- A call with any other prompt asks once, with the prompt as it is resolved. -/
theorem play_call_runAI_journal {text : String} (hne : Command.promptOf arguments ≠ "")
    (htext : run.context.resolve (Command.promptOf arguments) = .ok text) :
    (w.play c ((RunM.call "runAI" arguments).from run)).2.journal
      = w.journal ++ [⟨.generate text none,
        c.generator (w.journal.filterMap Exchange.generation?) text none⟩] := by
  have hcall : (RunM.call "runAI" arguments).from run
      = (RunM.dispatch (.runAI (Command.promptOf arguments))).from run := rfl
  rw [hcall]
  generalize Command.promptOf arguments = prompt at hne htext
  have hdispatch : (RunM.dispatch (.runAI prompt)).from run
      = .ask (.trace ⟨.interpreter, 1, "command " ++ (Command.runAI prompt).shown⟩) fun _ =>
        (do
          RunM.require "runAI" (prompt != "") .promptMissing
          let text ← RunM.resolve prompt
          let reply ← RunM.generate text none fun reply =>
            .command "runAI" (.generationFailed reply)
          RunM.setResult (.str reply) : RunM Unit).from run := rfl
  have hrequire : RunM.require "runAI" (prompt != "") .promptMissing = pure () :=
    if_pos (by simpa using hne)
  rw [hdispatch, play_ask, hrequire, pure_bind, RunM.from_resolve_bind_ok htext, RunM.from_bind,
    play_bind, play_generate, play_keepReply, answer_journal]
  rfl

end World

/-- How the prompt of a call is read. Between single quotes it is what is written there. Between
    triple quotes it is, too, just in case no parameter is read in it that has something in it; so
    it is if nothing in it looks like one. As a parameter, in whichever style, it is the value,
    unless that is empty: then it is the parameter itself. A call with an empty prompt fails and
    asks nobody, and a call with any other prompt asks once, with the prompt as it is resolved. -/
theorem Command.ofCall_runAI_written (c : Collaborators) (w : World) (run : Run) (t : String) :
    ('"' ∉ t.toList → ofCall "runAI" (QuoteStyle.plain.enclose t) = .ok (.runAI t))
      ∧ (ofCall "runAI" (QuoteStyle.triple.enclose t) = .ok (.runAI t)
        ↔ ∀ prompt, (namedParameters (QuoteStyle.triple.enclose t)).get? "prompt" = some prompt →
          prompt = "")
      ∧ (¬ tripleQuote <:+: t.toList → ¬ MentionsPrompt t →
        ofCall "runAI" (QuoteStyle.triple.enclose t) = .ok (.runAI t))
      ∧ (∀ p : WrittenParameter, p.name = "prompt" → p.value = t →
        ofCall "runAI" p.text = .ok (.runAI (if t = "" then String.ofList p.pair else t)))
      ∧ (∀ arguments, ofCall "runAI" arguments = .ok (.runAI "") →
        (w.play c ((RunM.call "runAI" arguments).from run)).1
            = (.error (.command "runAI" .promptMissing), run)
          ∧ (Failure.command "runAI" .promptMissing).message = "runAI requires a prompt."
          ∧ (w.play c ((RunM.call "runAI" arguments).from run)).2.journal = w.journal)
      ∧ (∀ arguments text, ofCall "runAI" arguments = .ok (.runAI t) → t ≠ "" →
        run.context.resolve t = .ok text →
        (w.play c ((RunM.call "runAI" arguments).from run)).2.journal
          = w.journal ++ [⟨.generate text none,
            c.generator (w.journal.filterMap Exchange.generation?) text none⟩]) := by
  have hcall (arguments : String) :
      ofCall "runAI" arguments = .ok (.runAI (promptOf arguments)) := rfl
  refine ⟨fun h => ?_, ?_, fun h hmentions => ?_, fun p hname hvalue => ?_,
    fun arguments h => ?_, fun arguments text h hne htext => ?_⟩
  · rw [hcall, promptOf_enclose_plain h]
  · rw [hcall, Except.ok.injEq, Command.runAI.injEq, promptOf_enclose_triple_iff]
  · rw [hcall, promptOf_enclose_triple_iff.2]
    intro prompt hprompt
    rw [get?_enclose_triple h hmentions] at hprompt
    cases hprompt
  · rw [hcall, promptOf_text p hname, hvalue]
  · have hprompt : promptOf arguments = "" := Command.runAI.inj (Except.ok.inj h)
    obtain ⟨hfails, hjournal⟩ := w.play_call_runAI_empty c run hprompt
    exact ⟨hfails, rfl, hjournal⟩
  · obtain rfl : promptOf arguments = t := Command.runAI.inj (Except.ok.inj h)
    exact w.play_call_runAI_journal c run hne htext

/-- A prompt in triple quotes, with quotes inside and at its end and tabs all around. -/
def quotedPrompt : WrittenParameter where
  name := "prompt"
  value := "Repeat: \"hi\""
  style := .triple
  gap := ['\t']
  before := ['\t']
  after := ['\t']
  name_ne_empty := by decide
  name_word := List.all_eq_true.1 (by decide +kernel)
  gap_blank := List.forall_mem_singleton.2 (by decide)
  before_blank := List.forall_mem_singleton.2 (by decide)
  after_blank := List.forall_mem_singleton.2 (by decide)
  value_allowed := by decide +kernel

theorem Command.ofCall_runAI_written_quotes :
    ('"' ∉ "prompt=, [answer]".toList
        ∧ ofCall "runAI" (QuoteStyle.plain.enclose "prompt=, [answer]")
          = .ok (.runAI "prompt=, [answer]"))
      ∧ (¬ tripleQuote <:+: "My \"prompt\"\nis \"\"".toList
        ∧ ¬ MentionsPrompt "My \"prompt\"\nis \"\""
        ∧ ofCall "runAI" (QuoteStyle.triple.enclose "My \"prompt\"\nis \"\"")
          = .ok (.runAI "My \"prompt\"\nis \"\""))
      ∧ (quotedPrompt.name = "prompt"
        ∧ ofCall "runAI" quotedPrompt.text = .ok (.runAI "Repeat: \"hi\""))
      ∧ (ofCall "runAI" "\"\"" = .ok (.runAI "")
        ∧ ((World.initial {} 0).play (.replying fun prompt _ => .ok prompt)
            ((RunM.call "runAI" "\"\"").from (.start (.str "")))).1
          = (.error (.command "runAI" .promptMissing), .start (.str "")))
      ∧ ofCall "runAI" "\"[prompt]!\"" = .ok (.runAI "[prompt]!")
        ∧ (Run.start (.str "hi")).context.resolve "[prompt]!" = .ok "hi!"
        ∧ ((World.initial {} 0).play (.replying fun prompt _ => .ok prompt)
            ((RunM.call "runAI" "\"[prompt]!\"").from (.start (.str "hi")))).2.journal
          = [⟨.generate "hi!" none, .ok "hi!"⟩] := by
  have hquote : '"' ∉ "prompt=, [answer]".toList := by decide
  have hinside : ¬ tripleQuote <:+: "My \"prompt\"\nis \"\"".toList := by decide
  have hmentions : ¬ MentionsPrompt "My \"prompt\"\nis \"\"" := by
    rintro ⟨gap, -, hword⟩
    have hequals : '=' ∈ "My \"prompt\"\nis \"\"".toList := hword.subset (by simp)
    exact absurd hequals (by decide)
  have hnone : ofCall "runAI" "\"\"" = .ok (.runAI "") := by with_unfolding_all rfl
  have hsome : ofCall "runAI" "\"[prompt]!\"" = .ok (.runAI "[prompt]!") := by
    with_unfolding_all rfl
  have htext : (Run.start (.str "hi")).context.resolve "[prompt]!" = .ok "hi!" := by
    with_unfolding_all rfl
  have hwritten := ofCall_runAI_written (.replying fun prompt _ => .ok prompt) (.initial {} 0)
  obtain ⟨hplain, -⟩ := hwritten (.start (.str "")) "prompt=, [answer]"
  obtain ⟨-, -, htriple, -⟩ := hwritten (.start (.str "")) "My \"prompt\"\nis \"\""
  obtain ⟨-, -, -, hparameter, hempty, -⟩ := hwritten (.start (.str "")) quotedPrompt.value
  obtain ⟨-, -, -, -, -, hasks⟩ := hwritten (.start (.str "hi")) "[prompt]!"
  exact ⟨⟨hquote, hplain hquote⟩, ⟨hinside, hmentions, htriple hinside hmentions⟩,
    ⟨rfl, hparameter quotedPrompt rfl rfl⟩, ⟨hnone, (hempty _ hnone).1⟩, hsome, htext,
    hasks _ _ hsome (by decide) htext⟩

/-- An empty parameter is sent itself, and a parameter that a text in triple quotes mentions is sent
    in place of the text. -/
theorem Command.ofCall_runAI_emptyParameter :
    ofCall "runAI" "prompt=\"\"" = .ok (.runAI "prompt=\"\"")
      ∧ ((World.initial {} 0).play (.replying fun prompt _ => .ok prompt)
          ((RunM.call "runAI" "prompt=\"\"").from
            (.start (.str "")))).2.journal.filterMap Exchange.generation? = [("prompt=\"\"", none)]
      ∧ ofCall "runAI" (QuoteStyle.triple.enclose "say prompt=\"x\" now") = .ok (.runAI "x") := by
  refine ⟨?_, ?_, ?_⟩ <;> with_unfolding_all rfl

end AgentScript
