import SchemaRecovery.Proofs.Schema.Distinct
import SchemaRecovery.Proofs.Schema.Registered
import SchemaRecovery.Proofs.Schema.Segments

set_option autoImplicit false

namespace SchemaRecovery.Schema

open Name (separator splitSegments joinSegments segments nestingPath)

inductive PathOf : String → String → Prop where
  -- The path of a name is what stands before its last dollar sign, and empty if it has none.
  | outermost (name : String) (whole : separator ∉ name.toList) : PathOf "" name
  | nested (path last : String) (whole : separator ∉ last.toList) : PathOf path (path ++ "$" ++ last)

theorem split_snoc (text last : List Char) (whole : separator ∉ last) :
    splitSegments (text ++ separator :: last) = splitSegments text ++ [last] := by
  induction text with
  | nil => simp [splitSegments, split_whole last whole]
  | cons c text ih =>
      rw [List.cons_append, splitSegments, splitSegments, ih]
      by_cases same : c = separator
      · rw [if_pos same, if_pos same, List.cons_append]
      · rw [if_neg same, if_neg same]
        cases parts : splitSegments text with
        | nil => exact absurd parts (Name.split_segments_nonempty text)
        | cons part rest => rfl

theorem last_separator (text : List Char) :
    separator ∉ text ∨ ∃ before last, separator ∉ last ∧ text = before ++ separator :: last := by
  induction text with
  | nil => exact .inl List.not_mem_nil
  | cons c text ih =>
      rcases ih with whole | ⟨before, last, whole, rfl⟩
      · by_cases same : c = separator
        · exact .inr ⟨[], text, whole, by rw [same, List.nil_append]⟩
        · exact .inl (by simp [Ne.symm same, whole])
      · exact .inr ⟨c :: before, last, whole, rfl⟩

theorem nesting_path_whole (name : String) (whole : separator ∉ name.toList) : nestingPath name = "" := by
  rw [nestingPath, segments, split_whole _ whole]
  rfl

theorem segments_snoc (path last : String) (whole : separator ∉ last.toList) :
    segments (path ++ "$" ++ last) = segments path ++ [last.toList] := by
  rw [segments, segments, String.toList_append, String.toList_append, List.append_assoc]
  exact split_snoc path.toList last.toList whole

theorem nesting_path_snoc (path last : String) (whole : separator ∉ last.toList) :
    nestingPath (path ++ "$" ++ last) = path := by
  rw [nestingPath, segments_snoc path last whole, List.dropLast_concat]
  exact (congrArg String.ofList (Name.join_split path.toList)).trans String.ofList_toList

theorem path_of_iff (path name : String) : PathOf path name ↔ nestingPath name = path := by
  constructor
  · rintro (⟨_, whole⟩ | ⟨_, last, whole⟩)
    · exact nesting_path_whole name whole
    · exact nesting_path_snoc path last whole
  · rintro rfl
    rcases last_separator name.toList with whole | ⟨before, last, whole, split⟩
    · rw [nesting_path_whole name whole]
      exact .outermost name whole
    · obtain rfl : name = String.ofList before ++ "$" ++ String.ofList last := by
        rw [← String.toList_inj, split]
        simp [separator]
      rw [nesting_path_snoc _ _ (by simpa using whole)]
      exact .nested _ _ (by simpa using whole)

theorem register_all_lookup (keys : List String) (nesting : Nesting) (key : String) :
    (keys.foldl registerKey nesting).paths.lookup key =
      if key ∈ keys then some (nestingPath key) else nesting.paths.lookup key := by
  induction keys generalizing nesting with
  | nil => rfl
  | cons first rest ih =>
      rw [List.foldl_cons, ih]
      by_cases later : key ∈ rest
      · rw [if_pos later, if_pos (List.mem_cons_of_mem _ later)]
      · rw [if_neg later, registerKey, Nesting.register, lookup_put_pair]
        by_cases same : key = first
        · rw [if_pos same, if_pos (by simp [same]), same]
        · rw [if_neg same, if_neg (by simp [same, later])]

theorem register_link (nesting : Nesting) (key : String) (link : String × String) :
    link ∈ (registerKey nesting key).links ↔
      link ∈ nesting.links ∨ link.1 ≠ "" ∧ link.2 = key ∧ nestingPath key = link.1 := by
  obtain ⟨path, child⟩ := link
  simp only [registerKey, Nesting.register]
  by_cases known : nestingPath key = "" ∨ (nestingPath key, key) ∈ nesting.links
  · rw [if_pos known]
    refine ⟨.inl, ?_⟩
    rintro (old | ⟨nested, rfl, rfl⟩)
    · exact old
    · exact known.resolve_left nested
  · rw [if_neg known, List.mem_append, List.mem_singleton, Prod.mk.injEq]
    rw [not_or] at known
    refine or_congr_right ⟨?_, ?_⟩
    · rintro ⟨rfl, rfl⟩
      exact ⟨known.1, rfl, rfl⟩
    · rintro ⟨_, rfl, rfl⟩
      exact ⟨rfl, rfl⟩

theorem register_all_link (keys : List String) (nesting : Nesting) (link : String × String) :
    link ∈ (keys.foldl registerKey nesting).links ↔
      link ∈ nesting.links ∨ link.1 ≠ "" ∧ link.2 ∈ keys ∧ nestingPath link.2 = link.1 := by
  induction keys generalizing nesting with
  | nil => simp
  | cons first rest ih =>
      rw [List.foldl_cons, ih, register_link, List.mem_cons, or_assoc]
      refine or_congr_right ⟨?_, ?_⟩
      · rintro (⟨nested, rfl, path⟩ | ⟨nested, later, path⟩)
        · exact ⟨nested, .inl rfl, path⟩
        · exact ⟨nested, .inr later, path⟩
      · rintro ⟨nested, same | later, path⟩
        · exact .inl ⟨nested, same, same ▸ path⟩
        · exact .inr ⟨nested, later, path⟩

theorem mem_children_registered (keys : List String) (path key : String) (nested : path ≠ "") :
    key ∈ (keys.foldl registerKey {}).childrenOf path ↔ key ∈ keys ∧ PathOf path key := by
  have empty : (path, key) ∉ Nesting.links {} := List.not_mem_nil
  have linked : key ∈ (keys.foldl registerKey {}).childrenOf path ↔ (path, key) ∈ (keys.foldl registerKey {}).links := by
    simp [Nesting.childrenOf]
  rw [linked, register_all_link, path_of_iff, or_iff_right empty, and_iff_right nested]

end SchemaRecovery.Schema
