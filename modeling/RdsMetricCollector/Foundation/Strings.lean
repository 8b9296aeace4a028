import Mathlib.Data.List.Basic

/-! # String functions

The functions of a standard string library that work on whole strings, given
through the list of characters of their argument.
-/

namespace RdsMetricCollector.Strings

/-- Replace every occurrence of one character by another. -/
def replaceAll (text : String) (old new : Char) : String :=
  String.ofList (text.toList.map fun char => if char = old then new else char)

/-- `text` begins with `lead`. -/
def HasPrefix (text lead : String) : Prop :=
  lead.toList <+: text.toList

instance (text lead : String) : Decidable (HasPrefix text lead) :=
  inferInstanceAs (Decidable (lead.toList <+: text.toList))

/-- Remove a leading `lead`, once, if it is there. -/
def trimPrefix (text lead : String) : String :=
  if HasPrefix text lead then
    String.ofList (text.toList.drop lead.toList.length)
  else
    text

example : replaceAll "rds_broker_1" '_' '-' = "rds-broker-1" := by decide

example : trimPrefix "rdsbroker-rdsbroker-1" "rdsbroker-" = "rdsbroker-1" := by
  decide

theorem trimPrefix_append (lead rest : String) :
    trimPrefix (lead ++ rest) lead = rest := by
  simp [trimPrefix, HasPrefix]

theorem append_trimPrefix {text lead : String} (leads : HasPrefix text lead) :
    lead ++ trimPrefix text lead = text := by
  rcases leads with ⟨rest, equal⟩
  have text_eq : text = lead ++ String.ofList rest := by
    rw [← String.toList_inj, String.toList_append, String.toList_ofList, equal]
  rw [text_eq, trimPrefix_append]

/-- Stripping a common prefix keeps different strings different. -/
theorem trimPrefix_injOn {left right lead : String}
    (leftLeads : HasPrefix left lead) (rightLeads : HasPrefix right lead)
    (equal : trimPrefix left lead = trimPrefix right lead) : left = right := by
  rw [← append_trimPrefix leftLeads, ← append_trimPrefix rightLeads, equal]

theorem trimPrefix_of_not_hasPrefix {text lead : String}
    (missing : ¬HasPrefix text lead) : trimPrefix text lead = text :=
  if_neg missing

theorem hasPrefix_append (lead rest : String) : HasPrefix (lead ++ rest) lead := by
  simp [HasPrefix]

/-! ## Replacing characters -/

private theorem toList_replaceAll (text : String) (old new : Char) :
    (replaceAll text old new).toList =
      text.toList.map fun char => if char = old then new else char := by
  simp [replaceAll]

theorem length_replaceAll (text : String) (old new : Char) :
    (replaceAll text old new).toList.length = text.toList.length := by
  rw [toList_replaceAll, List.length_map]

/-- Replacing changes exactly the strings in which the character occurs. -/
theorem replaceAll_eq_self_iff {text : String} {old new : Char}
    (different : old ≠ new) :
    replaceAll text old new = text ↔ old ∉ text.toList := by
  rw [← String.toList_inj, toList_replaceAll]
  nth_rewrite 2 [← List.map_id text.toList]
  rw [List.map_inj_left]
  constructor
  · intro same occurs
    have fixed := same old occurs
    rw [if_pos rfl] at fixed
    exact different fixed.symm
  · intro missing char member
    apply if_neg
    intro equal
    exact missing (equal ▸ member)

end RdsMetricCollector.Strings
