import AgentScript.Proofs.Run.Additive
import AgentScript.Proofs.Run.History

set_option autoImplicit false

/-! # Calling agents

How a call of an agent can go: the agent is asked with the instruction that it has been registered
with, or nobody is asked. The creation of an instruction and the registration of an agent are the
only steps that change which instruction an agent has, and the call is the only one that asks an
agent. -/

namespace AgentScript

/-! ## Calling an agent -/

namespace RunM

/-- Asking for text takes one exchange, and the reply decides how it ends. -/
theorem generate_passes {prompt : String} {instruction : Option String} {refused : String → Failure}
    {run : Run} {calls : List Exchange} {r : Except Failure String × Run}
    (h : ((generate prompt instruction refused).from run).Passes calls r) :
    ∃ reply : Except Failure String, calls = [⟨.generate prompt instruction, reply⟩] ∧
      r = ((reply.mapError Failure.awaited).bind fun text =>
        if Text.beginsWith "Error" text then .error (refused text) else .ok text, run) := by
  obtain ⟨reply, rest, rfl, h⟩ := h
  refine ⟨reply, ?_⟩
  cases reply with
  | error f =>
      obtain ⟨rfl, rfl⟩ := h
      exact ⟨rfl, rfl⟩
  | ok text =>
      change Dialogue.Passes ((if Text.beginsWith "Error" text then fail (refused text)
        else pure text : RunM String).from run) rest r at h
      change _ ∧ r = (if Text.beginsWith "Error" text then .error (refused text) else .ok text, run)
      split at h
      · next htext =>
          obtain ⟨rfl, rfl⟩ := h
          exact ⟨rfl, by rw [if_pos htext]⟩
      · next htext =>
          obtain ⟨rfl, rfl⟩ := h
          exact ⟨rfl, by rw [if_neg htext]⟩

/-- The failure of a call whose agent is not known. -/
def undefinedAgent (agent : String) : Failure :=
  .command "runAI_Agent" (.agentUndefined agent)

theorem awaited_eq_undefinedAgent {f : Failure} {agent : String}
    (h : f.awaited = undefinedAgent agent) : f = undefinedAgent agent := by
  unfold Failure.awaited at h
  split at h
  · cases h
  · exact h

section

variable {agent prompt : String} {run : Run} {calls : List Exchange} {r : Except Failure Unit × Run}
  (h : ((dispatch (.runAgent agent prompt)).from run).Passes calls r)

include h

/-- A prompt that cannot be resolved is not sent. -/
theorem runAgent_passes_unresolved {f : Failure} (hprompt : run.context.resolve prompt = .error f) :
    ∀ e ∈ calls, e.generation? = none := by
  obtain ⟨_, rest, rfl, h⟩ := h
  change Dialogue.Passes ((resolve prompt >>= _).from run) rest r at h
  rw [from_resolve_bind_error hprompt] at h
  obtain ⟨rfl, -⟩ := h
  exact List.forall_mem_singleton.2 rfl

/-- An agent that is not known is not asked. -/
theorem runAgent_passes_undefined {text : String} (hprompt : run.context.resolve prompt = .ok text)
    (hagent : Command.nonempty? (run.agents.get? agent) = none) :
    r.1 = .error (undefinedAgent agent) ∧ ∀ e ∈ calls, e.generation? = none := by
  obtain ⟨_, rest, rfl, h⟩ := h
  change Dialogue.Passes ((resolve prompt >>= _).from run) rest r at h
  rw [from_resolve_bind_ok hprompt, from_get_bind, hagent] at h
  obtain ⟨rfl, rfl⟩ := h
  exact ⟨rfl, List.forall_mem_singleton.2 rfl⟩

/-- An agent that is known is asked once, with its instruction. -/
theorem runAgent_passes_defined {text instruction : String}
    (hprompt : run.context.resolve prompt = .ok text)
    (hagent : Command.nonempty? (run.agents.get? agent) = some instruction) :
    ∃ (first second : Exchange) (reply : Except Failure String),
      calls = [first, second, ⟨.generate text (some instruction), reply⟩]
        ∧ first.generation? = none ∧ second.generation? = none
        ∧ (r.1 = .error (undefinedAgent agent) → reply = .error (undefinedAgent agent)) := by
  obtain ⟨_, rest, rfl, h⟩ := h
  change Dialogue.Passes ((resolve prompt >>= _).from run) rest r at h
  rw [from_resolve_bind_ok hprompt, from_get_bind, hagent] at h
  obtain ⟨_, rest, rfl, h⟩ := h
  obtain ⟨f, after, hask, rfl⟩ | ⟨_, after, first, rest, rfl, hask, hset⟩ := from_bind_passes.1 h
  · -- only a reply can bring this failure, for a reply that reports an error fails otherwise
    obtain ⟨reply, rfl, hr⟩ := generate_passes hask
    refine ⟨_, _, reply, rfl, rfl, rfl, fun hf => ?_⟩
    rw [Except.error.inj hf] at hr
    have hfails := (Prod.mk.inj hr).1
    cases reply with
    | error e =>
        have hawaited : e.awaited = undefinedAgent agent := (Except.error.inj hfails).symm
        rw [awaited_eq_undefinedAgent hawaited]
    | ok text =>
        change Except.error (undefinedAgent agent) = if _ then _ else _ at hfails
        split at hfails <;> cases hfails
  · obtain ⟨reply, rfl, hr⟩ := generate_passes hask
    obtain ⟨rfl, rfl⟩ := hset
    exact ⟨_, _, reply, rfl, rfl, rfl, fun hf => nomatch hf⟩

end

/-! ## The other steps -/

section

variable {run : Run} {calls : List Exchange} {r : Except Failure Unit × Run}

/-- A new instruction is kept as it is resolved at that moment. -/
theorem createAI_passes {instruction : String}
    (h : ((dispatch (.createAI instruction)).from run).Passes calls r) :
    (∃ text, run.context.resolve instruction = .ok text
        ∧ r = (.ok (), { run with pending := some text }))
      ∨ ∃ f, r = (.error f, run) := by
  obtain ⟨_, rest, rfl, h⟩ := h
  change Dialogue.Passes ((resolve instruction >>= _).from run) rest r at h
  cases hresolve : run.context.resolve instruction with
  | error f =>
      rw [from_resolve_bind_error hresolve] at h
      exact .inr ⟨f, h.2⟩
  | ok text =>
      rw [from_resolve_bind_ok hresolve] at h
      exact .inl ⟨text, rfl, h.2⟩

/-- A registration takes the instruction that waits, or fails and changes nothing. -/
theorem register_passes {agent : Option String} (h : ((register agent).from run).Passes calls r) :
    (∃ name text, agent = some name ∧ run.pending = some text ∧ text ≠ ""
        ∧ r = (.ok (), { run with agents := run.agents.put name text, pending := none }))
      ∨ ∃ f, r = (.error f, run) := by
  rw [register, from_get_bind] at h
  split at h
  · next name text hpending =>
      obtain ⟨_, rest, rfl, h⟩ := h
      obtain ⟨hpending, htext⟩ := Option.filter_eq_some_iff.1 hpending
      exact .inl ⟨name, text, rfl, hpending, by simpa using htext, h.2⟩
  · exact .inr ⟨_, h.2⟩

end

end RunM

/-! ## Steps that do not concern the agents -/

/-- A request that hands an agent its instruction. -/
def Request.isInstructed : Request → Bool
  | .generate _ (some _) => true
  | _ => false

/-- What asks no agent. -/
def asksNoAgent : Footprint :=
  ⟨fun q => q.isInstructed = false, fun _ _ => True⟩

/-- What leaves the agents of a run and the instruction that waits as they are. -/
def leavesAgents : Footprint :=
  ⟨fun _ => True, Run.SameAgents⟩

theorem covers_asksNoAgent : asksNoAgent.Covers fun _ => True where
  own _ _ := trivial
  trace _ := rfl
  refl _ := trivial
  trans _ _ := trivial

theorem covers_leavesAgents : leavesAgents.Covers fun _ => True where
  own _ _ := trivial
  trace _ := trivial
  refl := .refl
  trans := .trans

theorem Command.within_asksNoAgent {c : Command} (h : c.name ≠ "runAI_Agent") :
    c.footprint.Within asksNoAgent := by
  refine ⟨fun q hq => ?_, fun _ _ _ => trivial⟩
  cases q with
  | generate prompt instruction =>
      cases instruction with
      | none => rfl
      | some text => cases c <;> first | exact absurd rfl h | exact absurd hq Bool.false_ne_true
  | _ => rfl

theorem Command.within_leavesAgents {c : Command} (h : c.name ≠ "createAI") :
    c.footprint.Within leavesAgents := by
  refine ⟨fun _ _ => trivial, fun run after hmoves => ?_⟩
  cases c with
  | execute code =>
      obtain ⟨context, v, rfl⟩ := hmoves
      exact ⟨rfl, rfl⟩
  | createAI instruction => exact absurd rfl h
  | getNote | runAI | runAgent | saveFile | deleteFile | getFile =>
      obtain ⟨v, rfl⟩ := hmoves
      exact ⟨rfl, rfl⟩
  | _ =>
      obtain rfl := hmoves
      exact ⟨rfl, rfl⟩

/-- Only the call of an agent asks one. -/
theorem Script.Action.within_asksNoAgent {action : Action}
    (h : ∀ agent arguments, action ≠ .callAgent agent arguments) :
    action.footprint.Within asksNoAgent := by
  refine ⟨fun q hq => ?_, fun _ _ _ => trivial⟩
  cases action with
  | callAgent agent arguments => exact absurd rfl (h agent arguments)
  | callCommand name arguments =>
      obtain ⟨c, hc, hq⟩ := hq
      refine (Command.within_asksNoAgent fun hname => ?_).asks q hq
      -- no call by name makes the command of an agent's call
      rw [Command.ofCall_name hc] at hname
      subst hname
      cases hc
  | register agent =>
      obtain ⟨message, rfl⟩ := hq
      rfl
  | _ => exact hq.elim

/-- Only the creation of an instruction and a registration change the agents. -/
theorem Script.Action.within_leavesAgents {action : Action}
    (hcreates : ∀ arguments, action ≠ .callCommand "createAI" arguments)
    (hregisters : ∀ agent, action ≠ .register agent) : action.footprint.Within leavesAgents := by
  refine ⟨fun _ _ => trivial, fun run after hmoves => ?_⟩
  cases action with
  | callAgent agent arguments =>
      have hname : (Command.ofAgentCall agent arguments).name ≠ "createAI" :=
        (by decide : "runAI_Agent" ≠ "createAI")
      exact (Command.within_leavesAgents hname).moves run after hmoves
  | callCommand name arguments =>
      obtain ⟨c, hc, hmoves⟩ := hmoves
      refine (Command.within_leavesAgents fun hname => ?_).moves run after hmoves
      rw [Command.ofCall_name hc] at hname
      exact hcreates arguments (congrArg (Script.Action.callCommand · arguments) hname)
  | override | keep =>
      obtain ⟨context, rfl⟩ := hmoves
      exact ⟨rfl, rfl⟩
  | register agent => exact absurd rfl (hregisters agent)
  | nothing =>
      obtain rfl := hmoves
      exact ⟨rfl, rfl⟩

end AgentScript
