import AgentBigBrain.Lib.Runs
import Mathlib.Logic.Function.Basic
import Mathlib.Data.List.Basic

/-!
# Read, modify, write

Several clients change one shared content. A client loads it, computes from what it loaded, and
saves the result over whatever stands there by then. If every save follows its own load with no
other save between, the content is that of the operations performed one after another; every
save that does not meet this costs at least one operation.
-/
namespace AgentBigBrain.Lib.ReadModifyWrite

open Function

variable {σ ω ι : Type*}

/-- What a client loaded, and how many saves the content had seen by then. -/
structure Loaded (σ : Type*) where
  content : σ
  version : ℕ

structure Shared (σ ω ι : Type*) where
  content : σ
  /-- The operations that were saved, the earliest first. -/
  performed : List ω
  loaded : ι → Option (Loaded σ)

inductive Event (ω ι : Type*) where
  | load (client : ι)
  | save (client : ι) (operation : ω)
  /-- The client gives up what it loaded. -/
  | drop (client : ι)

def opened (content : σ) : Shared σ ω ι where
  content := content
  performed := []
  loaded _ := none

variable (apply : σ → ω → σ)

def step [DecidableEq ι] (shared : Shared σ ω ι) : Event ω ι → Option (Shared σ ω ι)
  | .load client =>
      some { shared with
        loaded := update shared.loaded client
          (some { content := shared.content, version := shared.performed.length }) }
  | .save client operation =>
      (shared.loaded client).map fun loaded =>
        { content := apply loaded.content operation
          performed := shared.performed ++ [operation]
          loaded := update shared.loaded client none }
  | .drop client => some { shared with loaded := update shared.loaded client none }

/-- Nothing was saved since the client that saves now loaded the content. -/
def Isolated (shared : Shared σ ω ι) : Event ω ι → Prop
  | .save client _ => ∀ loaded ∈ shared.loaded client, loaded.version = shared.performed.length
  | _ => True

/-- The content is that of all saved operations, performed one after another in some order. -/
def Reflects (start : σ) (shared : Shared σ ω ι) : Prop :=
  ∃ order : List ω, order.Perm shared.performed ∧ shared.content = order.foldl apply start

/-! ## Isolated saves lose nothing -/

structure InOrder (start : σ) (shared : Shared σ ω ι) : Prop where
  content : shared.content = shared.performed.foldl apply start
  loaded : ∀ client, ∀ loaded ∈ shared.loaded client,
    loaded.version ≤ shared.performed.length ∧
      loaded.content = (shared.performed.take loaded.version).foldl apply start

variable {apply}

lemma inOrder_opened (start : σ) : InOrder apply start (opened start : Shared σ ω ι) where
  content := rfl
  loaded client loaded hloaded := by simp [opened] at hloaded

lemma InOrder.reflects {start : σ} {shared : Shared σ ω ι} (h : InOrder apply start shared) :
    Reflects apply start shared :=
  ⟨shared.performed, .refl _, h.content⟩

variable [DecidableEq ι]

lemma inOrder_step {start : σ} (shared : Shared σ ω ι) (event : Event ω ι) (next : Shared σ ω ι)
    (h : InOrder apply start shared) (hisolated : Isolated shared event)
    (hstep : step apply shared event = some next) : InOrder apply start next := by
  cases event with
  | load client =>
      cases hstep
      refine ⟨h.content, fun other loaded hloaded => ?_⟩
      by_cases hother : other = client
      · subst hother
        simp only [update_self, Option.mem_def, Option.some.injEq] at hloaded
        subst hloaded
        simp [h.content]
      · simp only [update_of_ne hother] at hloaded
        exact h.loaded other loaded hloaded
  | save client operation =>
      obtain ⟨loaded, hloaded, hnext⟩ := Option.map_eq_some_iff.mp hstep
      subst hnext
      obtain ⟨-, hcontent⟩ := h.loaded client loaded hloaded
      rw [hisolated loaded hloaded, List.take_length] at hcontent
      refine ⟨by simp [hcontent], fun other kept hkept => ?_⟩
      by_cases hother : other = client
      · subst hother
        simp at hkept
      · simp only [update_of_ne hother] at hkept
        obtain ⟨hversion, hkeptContent⟩ := h.loaded other kept hkept
        refine ⟨by simp; omega, ?_⟩
        rw [List.take_append_of_le_length hversion]
        exact hkeptContent
  | drop client =>
      cases hstep
      refine ⟨h.content, fun other loaded hloaded => ?_⟩
      by_cases hother : other = client
      · subst hother
        simp at hloaded
      · simp only [update_of_ne hother] at hloaded
        exact h.loaded other loaded hloaded

/-- Isolated saves perform their operations one after another, in the order of the saves. -/
theorem inOrder_of_isolated {start : σ} {events : List (Event ω ι)} {finish : Shared σ ω ι}
    (hisolated : Along (step apply) Isolated (opened start) events)
    (hrun : run (step apply) (opened start) events = some finish) : InOrder apply start finish :=
  invariant_of_along inOrder_step (inOrder_opened start) hisolated hrun

/-! ## A save that is not isolated loses an operation -/

variable (apply) in
/-- The content is that of as many operations, performed one after another. -/
def MadeBy (start : σ) (content : σ) (count : ℕ) : Prop :=
  ∃ operations : List ω, operations.length = count ∧ content = operations.foldl apply start

lemma MadeBy.next {start content : σ} {count : ℕ} (h : MadeBy apply start content count)
    (operation : ω) : MadeBy apply start (apply content operation) (count + 1) := by
  obtain ⟨operations, hlength, hcontent⟩ := h
  exact ⟨operations ++ [operation], by simp [hlength], by simp [hcontent]⟩

variable (apply) in
/-- At least `lost` of the saved operations are not in the content, nor in what a client loaded
since the last save. -/
structure Behind (start : σ) (lost : ℕ) (shared : Shared σ ω ι) : Prop where
  content : ∃ count, MadeBy apply start shared.content count ∧
    count + lost ≤ shared.performed.length
  loaded : ∀ client, ∀ loaded ∈ shared.loaded client, ∃ count,
    MadeBy apply start loaded.content count ∧ count ≤ loaded.version ∧
      loaded.version ≤ shared.performed.length ∧
      (loaded.version = shared.performed.length → count + lost ≤ shared.performed.length)

omit [DecidableEq ι] in
lemma behind_opened (start : σ) : Behind apply start 0 (opened start : Shared σ ω ι) where
  content := ⟨0, ⟨[], rfl, rfl⟩, by simp⟩
  loaded client loaded hloaded := by simp [opened] at hloaded

lemma Behind.of_loads {start : σ} {lost : ℕ} {shared : Shared σ ω ι}
    (h : Behind apply start lost shared) {client : ι} {entry : Option (Loaded σ)}
    (hentry : ∀ loaded ∈ entry,
      loaded = { content := shared.content, version := shared.performed.length }) :
    Behind apply start lost { shared with loaded := update shared.loaded client entry } := by
  refine ⟨h.content, fun other loaded hloaded => ?_⟩
  by_cases hother : other = client
  · subst hother
    simp only [update_self] at hloaded
    rw [hentry loaded hloaded]
    obtain ⟨count, hmade, hcount⟩ := h.content
    exact ⟨count, hmade, by simp; omega, Nat.le_refl _, fun _ => hcount⟩
  · simp only [update_of_ne hother] at hloaded
    exact h.loaded other loaded hloaded

/-- A save keeps the operations lost so far lost, and one that is not isolated loses one at
least. -/
lemma Behind.save {start : σ} {lost now : ℕ} {shared : Shared σ ω ι}
    (h : Behind apply start lost shared) {client : ι} {operation : ω} {loaded : Loaded σ}
    (hloaded : loaded ∈ shared.loaded client)
    (hnow : loaded.version = shared.performed.length ∧ now ≤ lost ∨
      loaded.version ≠ shared.performed.length ∧ now ≤ 1) :
    Behind apply start now
      { content := apply loaded.content operation
        performed := shared.performed ++ [operation]
        loaded := update shared.loaded client none } := by
  obtain ⟨count, hmade, hcount, hversion, hlast⟩ := h.loaded client loaded hloaded
  refine ⟨⟨count + 1, hmade.next operation, ?_⟩, fun other kept hkept => ?_⟩
  · simp only [List.length_append, List.length_singleton]
    obtain ⟨hsame, hle⟩ | ⟨hdiffers, hle⟩ := hnow
    · have := hlast hsame
      omega
    · omega
  · by_cases hother : other = client
    · subst hother
      simp at hkept
    · simp only [update_of_ne hother] at hkept
      obtain ⟨before, hmadeBefore, hbefore, hkeptVersion, -⟩ := h.loaded other kept hkept
      refine ⟨before, hmadeBefore, hbefore, ?_, fun hsame => ?_⟩ <;>
        simp only [List.length_append, List.length_singleton] at *
      · omega
      · omega

lemma behind_step {start : σ} (shared : Shared σ ω ι) (event : Event ω ι) (next : Shared σ ω ι)
    {lost : ℕ} (h : Behind apply start lost shared) (hle : lost ≤ 1)
    (hstep : step apply shared event = some next) : Behind apply start lost next := by
  cases event with
  | load client =>
      cases hstep
      exact h.of_loads fun loaded hloaded => by simpa using hloaded.symm
  | save client operation =>
      obtain ⟨loaded, hloaded, hnext⟩ := Option.map_eq_some_iff.mp hstep
      subst hnext
      by_cases hsame : loaded.version = shared.performed.length
      · exact h.save hloaded (.inl ⟨hsame, Nat.le_refl _⟩)
      · exact h.save hloaded (.inr ⟨hsame, hle⟩)
  | drop client =>
      cases hstep
      exact h.of_loads fun loaded hloaded => by simp at hloaded

lemma behind_of_not_isolated {start : σ} (shared : Shared σ ω ι) (event : Event ω ι)
    (next : Shared σ ω ι) (h : Behind apply start 0 shared) (hisolated : ¬ Isolated shared event)
    (hstep : step apply shared event = some next) : Behind apply start 1 next := by
  cases event with
  | save client operation =>
      obtain ⟨loaded, hloaded, hnext⟩ := Option.map_eq_some_iff.mp hstep
      subst hnext
      refine h.save hloaded (.inr ⟨fun hsame => hisolated fun other hother => ?_, Nat.le_refl _⟩)
      rw [Option.mem_unique hother hloaded]
      exact hsame
  | load client => exact absurd trivial hisolated
  | drop client => exact absurd trivial hisolated

lemma behind_of_run {start : σ} {shared finish : Shared σ ω ι} {events : List (Event ω ι)}
    (h : Behind apply start 0 shared) (hnot : ¬ Along (step apply) Isolated shared events)
    (hrun : run (step apply) shared events = some finish) : Behind apply start 1 finish := by
  induction events generalizing shared with
  | nil => exact absurd trivial hnot
  | cons event events ih =>
      obtain ⟨next, hnext, hrest⟩ := Option.bind_eq_some_iff.mp hrun
      by_cases hisolated : Isolated shared event
      · refine ih (behind_step shared event next h (by omega) hnext) (fun halong => ?_) hrest
        refine hnot ⟨hisolated, fun other hother => ?_⟩
        rw [Option.mem_unique hother hnext]
        exact halong
      · exact invariant_of_run
          (fun state event next h => behind_step state event next h (Nat.le_refl 1))
          (behind_of_not_isolated shared event next h hisolated hnext) hrest

variable (apply) in
/-- A content tells how many operations made it, up to a number of them. -/
def Tells (start : σ) (bound : ℕ) : Prop :=
  ∀ content first second, first ≤ bound → second ≤ bound →
    MadeBy apply start content first → MadeBy apply start content second → first = second

/-- Where the content tells how many operations made it, it reflects all of them exactly if
every save was isolated. -/
theorem reflects_iff {start : σ} {events : List (Event ω ι)} {finish : Shared σ ω ι}
    (hrun : run (step apply) (opened start) events = some finish)
    (htells : Tells apply start finish.performed.length) :
    Reflects apply start finish ↔ Along (step apply) Isolated (opened start) events := by
  refine ⟨fun hreflects => ?_, fun halong => (inOrder_of_isolated halong hrun).reflects⟩
  by_contra hnot
  obtain ⟨order, hperm, hcontent⟩ := hreflects
  obtain ⟨count, hmade, hcount⟩ := (behind_of_run (behind_opened start) hnot hrun).content
  have hall : MadeBy apply start finish.content finish.performed.length :=
    ⟨order, hperm.length_eq, hcontent⟩
  have hsame := htells finish.content count finish.performed.length (by omega) (Nat.le_refl _)
    hmade hall
  omega

end AgentBigBrain.Lib.ReadModifyWrite
