import AgentScript.Proofs.Run.Intact
import AgentScript.Proofs.Text.Lowercase
import AgentScript.Proofs.Text.Search

set_option autoImplicit false

/-! # Steps of a plan

A task names the steps whose titles hold it in lower case, and the first of them gets the new status
(`updatePlan_names`). A task that stands in a title as it is written names the step, unless one of
its sigmas ends a word in the task but not in the title, or the other way round: in lower case it is
then one letter in the task and another in the title, and the step may be missed
(`updatePlan_finalSigma`). -/

namespace AgentScript.Workspace

/-- A task names a step: its lower case is a part of the lower case of the title. -/
def Names (task : String) (s : PlanStep) : Prop :=
  (Text.lower task).toList <:+: (Text.lower s.title).toList

theorem matchesTask_iff {task : String} {s : PlanStep} : matchesTask task s = true ↔ Names task s :=
  Text.occursIn_iff

theorem names_of_sigmasAgree {task : String} {s : PlanStep} (before after : String)
    (htitle : s.title = before ++ task ++ after) (h : Text.SigmasAgree before task after) :
    Names task s := by
  rw [Names, htitle]
  exact Text.lower_infix h

/-- The element that is changed is the first one that satisfies the condition. -/
theorem changeFirst_append {α : Type} {p : α → Bool} {a : α} {front back : List α}
    (hfront : ∀ b ∈ front, p b = false) (ha : p a = true) (f : α → α) :
    changeFirst p f (front ++ a :: back) = front ++ f a :: back := by
  induction front with
  | nil => rw [List.nil_append, changeFirst, if_pos ha, List.nil_append]
  | cons b front ih =>
      obtain ⟨hb, hfront⟩ := List.forall_mem_cons.1 hfront
      rw [List.cons_append, changeFirst, if_neg (by simp [hb]), ih hfront, List.cons_append]

variable (w : Workspace) (task status : String)

theorem updatePlan_eq_true_iff :
    (w.updatePlan task status).1 = true ↔ ∃ s ∈ w.plan, Names task s := by
  change w.plan.any (matchesTask task) = true ↔ _
  simp only [List.any_eq_true, matchesTask_iff]

/-- The first step that a task names gets the status, and nothing else is changed. -/
theorem exists_of_updatePlan (h : (w.updatePlan task status).1 = true) :
    ∃ front s back, w.plan = front ++ s :: back
      ∧ (∀ earlier ∈ front, ¬ Names task earlier) ∧ Names task s
      ∧ (w.updatePlan task status).2
        = { w with plan := front ++ { s with status := status } :: back } := by
  have hsome : (w.plan.find? (matchesTask task)).isSome := by
    rwa [List.find?_isSome, ← List.any_eq_true]
  obtain ⟨s, hfound⟩ := Option.isSome_iff_exists.1 hsome
  obtain ⟨hs, front, back, hplan, hfront⟩ := List.find?_eq_some_iff_append.1 hfound
  have hmisses : ∀ earlier ∈ front, matchesTask task earlier = false := fun earlier he => by
    simpa using hfront earlier he
  refine ⟨front, s, back, hplan, fun earlier he hnames => ?_, matchesTask_iff.1 hs, ?_⟩
  · exact absurd (matchesTask_iff.2 hnames) (by simp [hmisses earlier he])
  · have hchanged : changeFirst (matchesTask task) (fun s => { s with status := status })
        (front ++ s :: back) = front ++ { s with status := status } :: back :=
      changeFirst_append hmisses hs _
    rw [← hplan] at hchanged
    exact congrArg (fun plan => { w with plan := plan }) hchanged

/-- A task that stands in the title of a step is found if its sigmas end words there just in case
    they do in the task; so it is if there are no sigmas in it. What is found is the first step that
    the task names in lower case: it gets the status, and nothing else is changed. If no step is
    named, nothing is changed at all. -/
theorem updatePlan_names :
    (∀ s ∈ w.plan, ∀ before after, s.title = before ++ task ++ after →
        Text.SigmasAgree before task after → (w.updatePlan task status).1 = true)
      ∧ ('Σ' ∉ task.toList → ∀ s ∈ w.plan, task.toList <:+: s.title.toList →
        (w.updatePlan task status).1 = true)
      ∧ ((w.updatePlan task status).1 = true → ∃ front s back, w.plan = front ++ s :: back
        ∧ (∀ earlier ∈ front, ¬ Names task earlier) ∧ Names task s
        ∧ (w.updatePlan task status).2
          = { w with plan := front ++ { s with status := status } :: back })
      ∧ ((w.updatePlan task status).1 = false →
        (∀ s ∈ w.plan, ¬ Names task s) ∧ (w.updatePlan task status).2 = w) := by
  have hfound (s : PlanStep) (hs : s ∈ w.plan) (hnames : Names task s) :
      (w.updatePlan task status).1 = true :=
    (w.updatePlan_eq_true_iff task status).2 ⟨s, hs, hnames⟩
  refine ⟨fun s hs before after htitle hagree => ?_, fun hsigma s hs hpart => ?_,
    w.exists_of_updatePlan task status, fun h => ⟨fun s hs hnames => ?_, updatePlan_eq_self h⟩⟩
  · exact hfound s hs (names_of_sigmasAgree before after htitle hagree)
  · obtain ⟨before, after, htitle⟩ := hpart
    have hsplit : s.title = String.ofList before ++ task ++ String.ofList after := by
      rw [← String.toList_inj, ← htitle]
      simp [String.toList_append]
    have hagree := Text.sigmasAgree_of_not_mem hsigma (String.ofList before) (String.ofList after)
    exact hfound s hs (names_of_sigmasAgree _ _ hsplit hagree)
  · have htrue := hfound s hs hnames
    rw [h] at htrue
    cases htrue

/-- A plan with three titles that hold a task in some case: within a word, at its end, and in lower
    case. -/
def sigmaPlan : Workspace :=
  ofPlan ["ΑΣΑ", "Α ΑΣ!", "ας"]

theorem updatePlan_names_second :
    ('Σ' ∉ "Α".toList ∧ (sigmaPlan.updatePlan "Α" "done").1 = true)
      ∧ (∃ s ∈ sigmaPlan.plan, s.title = "Α " ++ "ΑΣ" ++ "!" ∧ Text.SigmasAgree "Α " "ΑΣ" "!")
      ∧ (sigmaPlan.updatePlan "ΑΣ" "done").1 = true
      ∧ (∃ front s back, sigmaPlan.plan = front ++ s :: back
        ∧ (∀ earlier ∈ front, ¬ Names "ΑΣ" earlier) ∧ Names "ΑΣ" s
        ∧ (sigmaPlan.updatePlan "ΑΣ" "done").2
          = { sigmaPlan with plan := front ++ { s with status := "done" } :: back })
      ∧ (sigmaPlan.updatePlan "ΑΑ" "done").1 = false
      ∧ (sigmaPlan.updatePlan "ΑΑ" "done").2 = sigmaPlan := by
  have hmem : { title := "Α ΑΣ!" } ∈ sigmaPlan.plan := by decide
  have hagree : Text.SigmasAgree "Α " "ΑΣ" "!" := by
    intro front back hs
    have hchars : ['Α', 'Σ'] = front ++ 'Σ' :: back := hs
    obtain ⟨rfl, rfl⟩ : front = ['Α'] ∧ back = [] := by
      simpa [List.cons_eq_append_iff] using hchars
    decide +kernel
  have hnone : (sigmaPlan.updatePlan "ΑΑ" "done").1 = false := by decide +kernel
  obtain ⟨hfound, -, hchanges, -⟩ := sigmaPlan.updatePlan_names "ΑΣ" "done"
  obtain ⟨-, hplain, -⟩ := sigmaPlan.updatePlan_names "Α" "done"
  obtain ⟨-, -, -, hmissed⟩ := sigmaPlan.updatePlan_names "ΑΑ" "done"
  have htrue := hfound _ hmem "Α " "!" (by decide) hagree
  have hsigma : 'Σ' ∉ "Α".toList := by decide
  exact ⟨⟨hsigma, hplain hsigma _ hmem (by decide)⟩, ⟨_, hmem, by decide, hagree⟩, htrue,
    hchanges htrue, hnone, (hmissed hnone).2⟩

/-- A task is missed although the only title begins with it, since the sigma at its end does not end
    a word there. -/
theorem updatePlan_finalSigma :
    "ΑΣΑ" = "" ++ "ΑΣ" ++ "Α"
      ∧ ((ofPlan ["ΑΣΑ"]).updatePlan "ΑΣ" "done").1 = false
      ∧ ((ofPlan ["ΑΣΑ"]).updatePlan "ΑΣ" "done").2 = ofPlan ["ΑΣΑ"] := by
  have hmissed : ((ofPlan ["ΑΣΑ"]).updatePlan "ΑΣ" "done").1 = false := by decide +kernel
  exact ⟨rfl, hmissed, updatePlan_eq_self hmissed⟩

end AgentScript.Workspace
