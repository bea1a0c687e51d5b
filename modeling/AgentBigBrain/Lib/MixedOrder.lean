import Mathlib.Data.Prod.Lex
import Mathlib.Tactic

/-!
# Comparing by stamp where both have one, and by time otherwise

Records carry a time and a name, and some of them a stamp. Two stamped records compare by stamp,
then time, then name; a pair that lacks a stamp compares by time, a stamped record before one
without, then by name. The relation is total, and it is an order exactly where no record without a
stamp stands, by its time, between two stamped ones whose times go against their stamps.
-/
namespace AgentBigBrain.Lib

structure Placed (σ τ ν : Type*) where
  stamp : Option σ
  time : τ
  name : ν

namespace Placed

variable {σ τ ν : Type*} [LinearOrder τ] [LinearOrder ν]

/-- By time and then by name. -/
def place (x : Placed σ τ ν) : Lex (τ × ν) :=
  toLex (x.time, x.name)

lemma time_le_of_place_le {x y : Placed σ τ ν} (h : x.place ≤ y.place) : x.time ≤ y.time := by
  rcases Prod.Lex.toLex_le_toLex.mp h with h | h
  · exact h.le
  · exact h.1.le

lemma place_le_of_time_lt {x y : Placed σ τ ν} (h : x.time < y.time) : x.place ≤ y.place :=
  Prod.Lex.toLex_le_toLex.mpr (.inl h)

variable [LinearOrder σ]

def le (x y : Placed σ τ ν) : Prop :=
  match x.stamp, y.stamp with
  | some s, some t => toLex (s, x.place) ≤ toLex (t, y.place)
  | some _, none => x.time ≤ y.time
  | none, some _ => x.time < y.time
  | none, none => x.place ≤ y.place

lemma le_of_stamps {x y : Placed σ τ ν} {s t : σ} (hx : x.stamp = some s) (hy : y.stamp = some t) :
    x.le y ↔ s < t ∨ s = t ∧ x.place ≤ y.place := by
  simp only [le, hx, hy, Prod.Lex.toLex_le_toLex]

lemma le_of_stamp_left {x y : Placed σ τ ν} {s : σ} (hx : x.stamp = some s) (hy : y.stamp = none) :
    x.le y ↔ x.time ≤ y.time := by
  simp only [le, hx, hy]

lemma le_of_stamp_right {x y : Placed σ τ ν} {t : σ} (hx : x.stamp = none)
    (hy : y.stamp = some t) : x.le y ↔ x.time < y.time := by
  simp only [le, hx, hy]

lemma le_of_no_stamps {x y : Placed σ τ ν} (hx : x.stamp = none) (hy : y.stamp = none) :
    x.le y ↔ x.place ≤ y.place := by
  simp only [le, hx, hy]

theorem le_total (x y : Placed σ τ ν) : x.le y ∨ y.le x := by
  unfold le
  cases x.stamp with
  | none =>
      cases y.stamp with
      | none => exact LinearOrder.le_total x.place y.place
      | some t => exact lt_or_ge x.time y.time
  | some s =>
      cases y.stamp with
      | none => exact le_or_gt x.time y.time
      | some t => exact LinearOrder.le_total (toLex (s, x.place)) (toLex (t, y.place))

/-- Records that come before each other have one time and one name. -/
theorem place_eq_of_le_of_le {x y : Placed σ τ ν} (hxy : x.le y) (hyx : y.le x) :
    x.place = y.place := by
  cases hx : x.stamp with
  | none =>
      cases hy : y.stamp with
      | none => exact le_antisymm ((le_of_no_stamps hx hy).mp hxy) ((le_of_no_stamps hy hx).mp hyx)
      | some t =>
          have hlt := (le_of_stamp_right hx hy).mp hxy
          exact absurd ((le_of_stamp_left hy hx).mp hyx) (not_le.mpr hlt)
  | some s =>
      cases hy : y.stamp with
      | none =>
          have hlt := (le_of_stamp_right hy hx).mp hyx
          exact absurd ((le_of_stamp_left hx hy).mp hxy) (not_le.mpr hlt)
      | some t =>
          simp only [le, hx, hy] at hxy hyx
          exact congrArg (fun key => (ofLex key).2) (le_antisymm hxy hyx)

/-! ## Circles -/

/-- Two stamped records and one without a stamp, each before the next. -/
def Circle (x y r : Placed σ τ ν) : Prop :=
  (∃ s t, x.stamp = some s ∧ y.stamp = some t ∧ s < t) ∧ r.stamp = none ∧
    y.time ≤ r.time ∧ r.time < x.time

lemma Circle.around {x y r : Placed σ τ ν} (h : Circle x y r) : x.le y ∧ y.le r ∧ r.le x := by
  obtain ⟨⟨s, t, hx, hy, hst⟩, hr, hyr, hrx⟩ := h
  exact ⟨(le_of_stamps hx hy).mpr (.inl hst), (le_of_stamp_left hy hr).mpr hyr,
    (le_of_stamp_right hr hx).mpr hrx⟩

/-- Three records that do not go round in a circle are in order. -/
theorem le_trans_of_no_circle {x y z : Placed σ τ ν} (hxyz : ¬ Circle x y z)
    (hyzx : ¬ Circle y z x) (hzxy : ¬ Circle z x y) (hxy : x.le y) (hyz : y.le z) : x.le z := by
  cases hx : x.stamp with
  | none =>
      cases hy : y.stamp with
      | none =>
          have hle := (le_of_no_stamps hx hy).mp hxy
          cases hz : z.stamp with
          | none => exact (le_of_no_stamps hx hz).mpr (hle.trans ((le_of_no_stamps hy hz).mp hyz))
          | some u =>
              have hlt := (le_of_stamp_right hy hz).mp hyz
              exact (le_of_stamp_right hx hz).mpr ((time_le_of_place_le hle).trans_lt hlt)
      | some t =>
          have hlt := (le_of_stamp_right hx hy).mp hxy
          cases hz : z.stamp with
          | none =>
              have hle := (le_of_stamp_left hy hz).mp hyz
              exact (le_of_no_stamps hx hz).mpr (place_le_of_time_lt (hlt.trans_le hle))
          | some u =>
              refine (le_of_stamp_right hx hz).mpr ?_
              rcases (le_of_stamps hy hz).mp hyz with htu | ⟨-, hle⟩
              · by_contra hzx
                exact hyzx ⟨⟨t, u, hy, hz, htu⟩, hx, not_lt.mp hzx, hlt⟩
              · exact hlt.trans_le (time_le_of_place_le hle)
  | some s =>
      cases hy : y.stamp with
      | none =>
          have hle := (le_of_stamp_left hx hy).mp hxy
          cases hz : z.stamp with
          | none =>
              have hplace := time_le_of_place_le ((le_of_no_stamps hy hz).mp hyz)
              exact (le_of_stamp_left hx hz).mpr (hle.trans hplace)
          | some u =>
              have hlt := (le_of_stamp_right hy hz).mp hyz
              refine (le_of_stamps hx hz).mpr ?_
              rcases lt_trichotomy s u with hsu | hsu | hus
              · exact .inl hsu
              · exact .inr ⟨hsu, place_le_of_time_lt (hle.trans_lt hlt)⟩
              · exact absurd ⟨⟨u, s, hz, hx, hus⟩, hy, hle, hlt⟩ hzxy
      | some t =>
          have hst := (le_of_stamps hx hy).mp hxy
          cases hz : z.stamp with
          | none =>
              have hle := (le_of_stamp_left hy hz).mp hyz
              refine (le_of_stamp_left hx hz).mpr ?_
              rcases hst with hst | ⟨-, hplace⟩
              · by_contra hxz
                exact hxyz ⟨⟨s, t, hx, hy, hst⟩, hz, hle, not_le.mp hxz⟩
              · exact (time_le_of_place_le hplace).trans hle
          | some u =>
              simp only [le, hx, hy, hz] at hxy hyz ⊢
              exact hxy.trans hyz

end Placed

end AgentBigBrain.Lib
