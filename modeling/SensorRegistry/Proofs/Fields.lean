/-
Writing a field. The written name keeps its place, or comes last if it is new, and the fields of other names stay as
they are. So the names of fields are those that were written, each once, in the order of the first writes.
-/
import SensorRegistry.Fields
import Mathlib.Data.List.Nodup

namespace SensorRegistry.Fields

/-- The names of fields, in their order. -/
def names (fields : List (Text × Text)) : List Text := fields.map (·.1)

/-- What a write under `name` makes of fields: one of that name, with the value; those of other names, as they were;
and no name in another place, a new one coming last. -/
structure Overwritten (name value : Text) (old new : List (Text × Text)) : Prop where
  own : new.filter (·.1 = name) = [(name, value)]
  others : new.filter (·.1 ≠ name) = old.filter (·.1 ≠ name)
  order : names new = if name ∈ names old then names old else names old ++ [name]

variable {name value : Text} {fields : List (Text × Text)}

theorem names_put (name value : Text) (fields : List (Text × Text)) :
    names (put name value fields) = if name ∈ names fields then names fields else names fields ++ [name] := by
  induction fields with
  | nil => rfl
  | cons field rest ih =>
    obtain ⟨n, v⟩ := field
    have hcons : ∀ v rest, names ((n, v) :: rest) = n :: names rest := fun _ _ => rfl
    by_cases hn : n = name
    · rw [put, if_pos hn, hcons, hcons, if_pos (hn ▸ List.mem_cons_self)]
    · have hmem : name ∈ n :: names rest ↔ name ∈ names rest := List.mem_cons.trans (or_iff_right (Ne.symm hn))
      rw [put, if_neg hn, hcons, hcons, ih, if_congr hmem rfl rfl, List.cons_append, apply_ite (n :: ·)]

theorem nodup_names_put (h : (names fields).Nodup) : (names (put name value fields)).Nodup := by
  rw [names_put]
  split_ifs with hmem
  · exact h
  · exact List.nodup_append.2 ⟨h, List.nodup_singleton name, fun m hm n hn => by
      rintro rfl
      exact hmem (List.mem_singleton.1 hn ▸ hm)⟩

theorem mem_put {field : Text × Text} (h : field ∈ put name value fields) : field = (name, value) ∨ field ∈ fields := by
  induction fields with
  | nil => exact .inl (List.mem_singleton.1 h)
  | cons first rest ih =>
    obtain ⟨n, v⟩ := first
    by_cases hn : n = name
    · rw [put, if_pos hn, hn] at h
      rcases List.mem_cons.1 h with rfl | h
      · exact .inl rfl
      · exact .inr (List.mem_cons_of_mem _ h)
    · rw [put, if_neg hn] at h
      rcases List.mem_cons.1 h with rfl | h
      · exact .inr List.mem_cons_self
      · exact (ih h).imp_right (List.mem_cons_of_mem _)

theorem filter_own_put (h : (names fields).Nodup) : (put name value fields).filter (·.1 = name) = [(name, value)] := by
  induction fields with
  | nil => simp [put]
  | cons first rest ih =>
    obtain ⟨n, v⟩ := first
    obtain ⟨hfirst, hrest⟩ := List.nodup_cons.1 h
    by_cases hn : n = name
    · subst hn
      -- the first field takes the value, and no other one has its name
      have hnone : rest.filter (·.1 = n) = [] := List.filter_eq_nil_iff.2 fun f hf heq =>
        hfirst (List.mem_map.2 ⟨f, hf, of_decide_eq_true heq⟩)
      rw [put, if_pos rfl, List.filter_cons_of_pos (by simp), hnone]
    · rw [put, if_neg hn, List.filter_cons_of_neg (by simpa using hn)]
      exact ih hrest

theorem filter_others_put (name value : Text) (fields : List (Text × Text)) :
    (put name value fields).filter (·.1 ≠ name) = fields.filter (·.1 ≠ name) := by
  induction fields with
  | nil => simp [put]
  | cons first rest ih =>
    obtain ⟨n, v⟩ := first
    by_cases hn : n = name
    · rw [put, if_pos hn, List.filter_cons_of_neg (by simpa using hn), List.filter_cons_of_neg (by simpa using hn)]
    · rw [put, if_neg hn, List.filter_cons_of_pos (by simpa using hn), List.filter_cons_of_pos (by simpa using hn), ih]

theorem overwritten_put (name value : Text) (h : (names fields).Nodup) :
    Overwritten name value fields (put name value fields) :=
  ⟨filter_own_put h, filter_others_put name value fields, names_put name value fields⟩

/-- A write adds its name to those written before. -/
theorem names_put_eraseDups {written : List Text} (h : names fields = written.eraseDups) :
    names (put name value fields) = (written ++ [name]).eraseDups := by
  rw [names_put, h, List.eraseDups_append, if_congr List.mem_eraseDups rfl rfl]
  by_cases hmem : name ∈ written
  · simp [List.removeAll, hmem]
  · simp [List.removeAll, hmem, List.eraseDups_cons]

end SensorRegistry.Fields
