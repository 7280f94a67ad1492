import Mathlib.Data.List.Destutter

/-!
# Logs of changes

A log that is shown one item after the other and keeps those that differ from the last one it kept. What
it has to remember is that one item, or so much of it as the comparison looks at.
-/

universe u v

namespace ChangeLog

variable {Item : Type u} {differs : Item → Item → Prop} [DecidableRel differs]

/-- The items that are kept, if the first one is compared with `initial`. -/
def kept (differs : Item → Item → Prop) [DecidableRel differs] (initial : Item) (items : List Item) :
    List Item :=
  (items.destutter' differs initial).tail

/-- The item that the next one will be compared with. -/
def last (differs : Item → Item → Prop) [DecidableRel differs] (initial : Item) (items : List Item) :
    Item :=
  items.foldl (fun kept item => if differs kept item then item else kept) initial

theorem destutter'_eq_cons (initial : Item) (items : List Item) :
    items.destutter' differs initial = initial :: kept differs initial items := by
  rw [kept]
  induction items generalizing initial with
  | nil => rfl
  | cons item rest ih =>
      rw [List.destutter'_cons]
      split_ifs
      · rfl
      · exact ih initial

@[simp]
theorem kept_nil (initial : Item) : kept differs initial [] = [] := rfl

theorem kept_cons (initial item : Item) (items : List Item) :
    kept differs initial (item :: items) =
      if differs initial item then item :: kept differs item items
      else kept differs initial items := by
  rw [kept, List.destutter'_cons]
  split_ifs
  · rw [List.tail_cons, destutter'_eq_cons]
  · rfl

theorem last_cons (initial item : Item) (items : List Item) :
    last differs initial (item :: items) =
      last differs (if differs initial item then item else initial) items := by
  rw [last, List.foldl_cons]
  rfl

theorem kept_concat (initial item : Item) (items : List Item) :
    kept differs initial (items ++ [item]) =
      kept differs initial items ++
        if differs (last differs initial items) item then [item] else [] := by
  induction items generalizing initial with
  | nil => rw [List.nil_append, kept_cons, kept_nil, kept_nil, List.nil_append, last, List.foldl_nil]
  | cons first rest ih =>
      rw [List.cons_append, kept_cons, kept_cons, last_cons]
      by_cases hdiffers : differs initial first
      · rw [if_pos hdiffers, if_pos hdiffers, if_pos hdiffers, ih first, List.cons_append]
      · rw [if_neg hdiffers, if_neg hdiffers, if_neg hdiffers, ih initial]

theorem last_concat (initial item : Item) (items : List Item) :
    last differs initial (items ++ [item]) =
      if differs (last differs initial items) item then item else last differs initial items := by
  rw [last, List.foldl_append]
  rfl

/-! ### Items that are compared by a key -/

section Key

variable {Key : Type v} {key : Item → Key} (hkey : ∀ first second, differs first second ↔
  key second ≠ key first)

include hkey

/-- What is remembered has the key of the last item, whether that was kept or not. -/
theorem key_last (initial : Item) (items : List Item) :
    key (last differs initial items) = (items.getLast?.map key).getD (key initial) := by
  induction items using List.reverseRecOn with
  | nil => rfl
  | append_singleton earlier item _ =>
      rw [last_concat, List.getLast?_concat, Option.map_some, Option.getD_some]
      split_ifs with hdiffers
      · rfl
      · exact (not_not.mp fun hne => hdiffers ((hkey _ _).mpr hne)).symm

theorem destutter_concat [DecidableEq Key] (items : List Item) (item : Item) :
    (items ++ [item]).destutter differs =
      items.destutter differs ++
        if items.getLast?.map key = some (key item) then [] else [item] := by
  cases items with
  | nil => rfl
  | cons first rest =>
      have hlast : (first :: rest).getLast?.map key = some (key (last differs first rest)) := by
        rw [key_last hkey, List.getLast?_cons, Option.map_some, Option.getD_map]
      rw [List.cons_append, List.destutter_cons', List.destutter_cons', destutter'_eq_cons,
        destutter'_eq_cons, kept_concat, List.cons_append, hlast]
      by_cases hsame : key (last differs first rest) = key item
      · rw [if_pos (congrArg some hsame), if_neg fun hdiffers => (hkey _ _).mp hdiffers hsame.symm]
      · rw [if_neg fun h => hsame (Option.some.inj h), if_pos ((hkey _ _).mpr (Ne.symm hsame))]

end Key

end ChangeLog
