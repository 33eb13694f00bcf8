import Mathlib.Data.List.Basic

/-! What a bounded history keeps of a log: the most recent items in their order, apart
from those that are gone. -/

namespace Perfcho.Foundation

/-- A part of a list that leaves out only items that are gone. -/
inductive Sift {Item : Type} (gone : Item → Prop) : List Item → List Item → Prop where
  | nil : Sift gone [] []
  | keep (sift : Sift gone items kept) : Sift gone (item :: items) (item :: kept)
  | leave (left : gone item) (sift : Sift gone items kept) : Sift gone (item :: items) kept

variable {Item : Type} {gone : Item → Prop} {item : Item} {items kept log : List Item}

namespace Sift

theorem mono (sift : Sift gone items kept) (wider : ∀ item, gone item → more item) :
    Sift more items kept := by
  induction sift with
  | nil => exact .nil
  | keep _ ih => exact .keep ih
  | leave left _ ih => exact .leave (wider _ left) ih

theorem filter (sift : Sift gone items kept) (live : Item → Bool)
    (dropped : ∀ item ∈ kept, ¬ live item → gone item) : Sift gone items (kept.filter live) := by
  induction sift with
  | nil => exact .nil
  | @keep items kept item _ ih =>
    have rest := ih fun other member => dropped other (List.mem_cons_of_mem _ member)
    by_cases lives : live item
    · rw [List.filter_cons_of_pos lives]
      exact .keep rest
    · rw [List.filter_cons_of_neg lives]
      exact .leave (dropped item List.mem_cons_self lives) rest
  | leave left _ ih => exact .leave left (ih dropped)

theorem concat (sift : Sift gone items kept) (item : Item) : Sift gone (items ++ [item])
    (kept ++ [item]) := by
  induction sift with
  | nil => exact .keep .nil
  | keep _ ih => exact .keep ih
  | leave left _ ih => exact .leave left ih

theorem uncons (sift : Sift gone items (item :: kept)) :
    ∃ front back, items = front ++ item :: back ∧ Sift gone back kept := by
  generalize same : item :: kept = whole at sift
  induction sift with
  | nil => cases same
  | @keep items _ _ sift =>
    cases same
    exact ⟨[], items, rfl, sift⟩
  | @leave head _ _ left _ ih =>
    obtain ⟨front, back, rfl, sift⟩ := ih same
    exact ⟨head :: front, back, rfl, sift⟩

theorem drop (sift : Sift gone items kept) (count : Nat) :
    ∃ front back, items = front ++ back ∧ Sift gone back (kept.drop count) := by
  induction count generalizing items kept with
  | zero => exact ⟨[], items, rfl, sift⟩
  | succ count ih =>
    cases kept with
    | nil => exact ⟨[], items, rfl, sift⟩
    | cons item kept =>
      obtain ⟨front, back, rfl, rest⟩ := sift.uncons
      obtain ⟨next, last, rfl, dropped⟩ := ih rest
      exact ⟨front ++ item :: next, last, by simp, dropped⟩

end Sift

/-- The items kept of a log are the most recent ones, apart from those that are gone. The
last item of the log is always among the most recent ones. -/
def Recent (gone : Item → Prop) (log kept : List Item) : Prop :=
  ∃ old recent, log = old ++ recent ∧ (recent = [] → old = []) ∧ Sift gone recent kept

namespace Recent

theorem nil : Recent gone [] [] := ⟨[], [], rfl, fun _ => rfl, .nil⟩

theorem mono (recent : Recent gone log kept) (wider : ∀ item, gone item → more item) :
    Recent more log kept := by
  obtain ⟨old, latest, split, last, sift⟩ := recent
  exact ⟨old, latest, split, last, sift.mono wider⟩

theorem filter (recent : Recent gone log kept) (live : Item → Bool)
    (dropped : ∀ item ∈ kept, ¬ live item → gone item) : Recent gone log (kept.filter live) := by
  obtain ⟨old, latest, split, last, sift⟩ := recent
  exact ⟨old, latest, split, last, sift.filter live dropped⟩

theorem push (recent : Recent gone log kept) (count : Nat) (item : Item) :
    Recent gone (log ++ [item]) (kept.drop count ++ [item]) := by
  obtain ⟨old, latest, rfl, _, sift⟩ := recent
  obtain ⟨front, back, rfl, dropped⟩ := sift.drop count
  exact ⟨old ++ front, back ++ [item], by simp, by simp, dropped.concat item⟩

end Recent

end Perfcho.Foundation
