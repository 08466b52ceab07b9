import SchemaRecovery.Proofs.Check.Declared

set_option autoImplicit false

namespace SchemaRecovery.Proto

def fieldKinds : List String := ["duplicate_field_number", "forbidden_label", "placeholder_type", "unknown_type"]

theorem repeat_defect_kind (owner : String) (earlier : List FieldDeclaration) (field : FieldDeclaration) :
    ∀ defect ∈ numberDefects owner earlier field, defect.kind = "duplicate_field_number" := by
  unfold numberDefects
  cases earlier.find? fun other => other.number = field.number <;> simp [Defect.kind]

theorem forbidden_defect_kind (owner : String) (field : FieldDeclaration) :
    ∀ defect ∈ labelDefects owner field, defect.kind = "forbidden_label" := by
  unfold labelDefects
  cases field.label with
  | none => simp
  | some label => cases label <;> simp [Label.isAllowed, Defect.kind]

theorem type_defect_cases (declared scope : List String) (owner field type : String) (defect : Defect)
    (told : defect ∈ typeDefects declared scope owner field type) :
    defect = .placeholderType owner field ∨
      defect = .unknownType owner field type ∧ isDeclared declared scope type = false := by
  unfold typeDefects at told
  split at told
  · exact .inl (List.mem_singleton.mp told)
  · split at told
    · exact absurd told List.not_mem_nil
    · rename_i unknown
      rw [Bool.or_eq_true, not_or, Bool.not_eq_true, Bool.not_eq_true] at unknown
      exact .inr ⟨List.mem_singleton.mp told, unknown.2⟩

theorem field_issue_kind (declared scope : List String) (earlier : List FieldDeclaration) (field : FieldDeclaration) :
    ∀ issue ∈ fieldIssues declared scope earlier field, issue.kind ∈ fieldKinds := by
  intro issue member
  obtain ⟨defect, found, rfl⟩ := List.mem_map.mp member
  change defect.kind ∈ fieldKinds
  rcases List.mem_append.mp found with before | typed
  · rcases List.mem_append.mp before with numbered | labelled
    · rw [repeat_defect_kind _ earlier field defect numbered]
      decide
    · rw [forbidden_defect_kind _ field defect labelled]
      decide
  · obtain ⟨type, _, told⟩ := List.mem_flatMap.mp typed
    rcases type_defect_cases declared scope _ field.name type defect told with rfl | ⟨rfl, _⟩
    · simp [Defect.kind, fieldKinds]
    · simp [Defect.kind, fieldKinds]

theorem field_told (declared scope : List String) (earlier fields : List FieldDeclaration) (field : FieldDeclaration)
    (member : field ∈ fields) :
    ∃ before, fieldIssues declared scope before field ⊆ fieldsIssues declared scope earlier fields := by
  induction fields generalizing earlier with
  | nil => exact absurd member List.not_mem_nil
  | cons first rest ih =>
      rw [fieldsIssues]
      rcases List.mem_cons.mp member with rfl | later
      · exact ⟨earlier, List.subset_append_left _ _⟩
      · obtain ⟨before, told⟩ := ih (earlier ++ [first]) later
        exact ⟨before, List.Subset.trans told (List.subset_append_right _ _)⟩

theorem told_of_field (declared scope : List String) (earlier fields : List FieldDeclaration) (issue : Issue)
    (member : issue ∈ fieldsIssues declared scope earlier fields) :
    ∃ field ∈ fields, ∃ before, issue ∈ fieldIssues declared scope before field := by
  induction fields generalizing earlier with
  | nil => exact absurd member List.not_mem_nil
  | cons first rest ih =>
      rcases List.mem_append.mp member with here | later
      · exact ⟨first, List.mem_cons_self, earlier, here⟩
      · obtain ⟨field, present, told⟩ := ih (earlier ++ [first]) later
        exact ⟨field, List.mem_cons_of_mem _ present, told⟩

theorem messages_issue_kind (declared scope : List String) (declarations : List Declaration) :
    ∀ issue ∈ messagesIssues declared scope declarations, issue.kind ∈ fieldKinds := by
  intro issue member
  rw [messages_issues_bodies] at member
  obtain ⟨body, _, told⟩ := List.mem_flatMap.mp member
  obtain ⟨field, _, before, here⟩ := told_of_field declared body.path [] _ issue told
  exact field_issue_kind declared body.path before field issue here

theorem unknown_entities_kind (text : String) : ∀ issue ∈ unknownEntities text, issue.kind = "unknown_entity" := by
  intro issue member
  simp only [unknownEntities, List.mem_filterMap, List.mem_mapIdx, id] at member
  obtain ⟨_, ⟨index, _, rfl⟩, found⟩ := member
  obtain ⟨name, _, rfl⟩ := Option.map_eq_some_iff.mp found
  rfl

end SchemaRecovery.Proto
