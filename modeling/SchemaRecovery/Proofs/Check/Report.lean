import SchemaRecovery.Proofs.Check.Comments
import SchemaRecovery.Proofs.Check.Fields
import SchemaRecovery.Proofs.Layout.Reference
import Mathlib.Data.List.Find

set_option autoImplicit false

namespace SchemaRecovery.Proto

open Schema (Catalog Definition Field Member)

theorem unknown_entities_said (text : String) :
    (unknownEntities text).map Issue.said = (mentioned text.toList).map fun name => (Defect.unknownEntity name).said := by
  have numbered (lines : List (List Char)) (start : Nat) :
      ((lines.mapIdx fun index line => (unknownEntity? line).map fun name =>
        (Defect.unknownEntity name).at (index + start)).filterMap id).map Issue.said =
          (lines.filterMap unknownEntity?).map fun name => (Defect.unknownEntity name).said := by
    induction lines generalizing start with
    | nil => rfl
    | cons line rest ih =>
        have further := ih (start + 1)
        simp only [List.mapIdx_cons, List.filterMap_cons, id, Nat.add_assoc, Nat.add_comm 1] at further ⊢
        cases unknownEntity? line with
        | none => exact further
        | some name => exact congrArg _ further
  exact numbered (feedLines text.toList) 1

def Layout.defects (layout : Layout) : List Defect :=
  layout.bare.map (fun site => .unknownEntity site.block.name) ++
    layout.messages.flatMap (siteDefects layout (layout.printed.map Site.fullName))

theorem check_said (settings : Settings) (edition : Edition) (catalog : Catalog)
    (writable : Writable settings edition catalog) :
    (check (Document.ofCatalog settings edition catalog).text).map Issue.said =
      (Layout.ofCatalog catalog).defects.map Defect.said := by
  rw [check, document_read settings edition catalog writable, List.map_append, unknown_entities_said,
    document_mentions settings edition catalog writable]
  simp only [top_declares, top_issues_said]
  rw [Layout.defects, List.map_append, List.map_map, List.map_map]
  rfl

def saying (issues : List Issue) (kind : String) : List String :=
  (issues.filter fun issue => issue.kind = kind).map (·.message)

def Defect.ofKind (kind : String) (defects : List Defect) : List Defect := defects.filter fun defect => defect.kind = kind

theorem saying_said (issues : List Issue) (defects : List Defect)
    (same : issues.map Issue.said = defects.map Defect.said) (kind : String) :
    saying issues kind = (Defect.ofKind kind defects).map (·.message) := by
  have filtered := congrArg (fun said => (said.filter fun pair => pair.1 = kind).map (·.2)) same
  simp only [List.filter_map, List.map_map] at filtered
  exact filtered

def Uniform (kind : String) (defects : List Defect) : Prop := ∀ defect ∈ defects, defect.kind = kind

theorem of_kind_append (kind : String) (a b : List Defect) :
    Defect.ofKind kind (a ++ b) = Defect.ofKind kind a ++ Defect.ofKind kind b :=
  List.filter_append a b

theorem of_kind_flat_map {α : Type} (kind : String) (items : List α) (defects : α → List Defect) :
    Defect.ofKind kind (items.flatMap defects) = items.flatMap fun item => Defect.ofKind kind (defects item) :=
  List.filter_flatMap

theorem of_kind_uniform (kind other : String) (defects : List Defect) (uniform : Uniform other defects) :
    Defect.ofKind kind defects = if other = kind then defects else [] := by
  split
  · rename_i same
    exact List.filter_eq_self.mpr fun defect member => decide_eq_true ((uniform defect member).trans same)
  · rename_i different
    refine List.filter_eq_nil_iff.mpr fun defect member here => different ?_
    exact (uniform defect member).symm.trans (of_decide_eq_true here)

section
variable (layout : Layout) (site : Site)

def untyped (field : Field) : List Defect :=
  if field.type.isNone then [.placeholderType site.fullName field.name] else []

def sharedNumber (earlier : List Field) (field : Field) : List Defect :=
  repeats site.fullName field (earlier.find? fun other => other.id = field.id)

def Layout.finds (type : String) : Bool :=
  let shown := layout.reference type site.block.name
  scalarTypes.contains shown || isDeclared (layout.printed.map Site.fullName) site.path shown

def undeclared (field : Field) : List Defect :=
  ((typeNames field).filter fun type => !layout.finds site type).map fun type =>
    .unknownType site.fullName field.name (layout.reference type site.block.name)

end

def Marked (layout : Layout) : Prop :=
  ∀ site ∈ layout.messages, ∀ field ∈ site.block.definition.allFields, field.type.isSome →
    unresolvedType ∉ printedTypes layout site.block.name field

def Known (layout : Layout) (type : String) : Prop :=
  type ∈ scalarTypes ∨ ∃ target ∈ layout.printed, target.block.name = type

theorem known_types_told (layout : Layout) (site : Site) (field : String) (types : List String)
    (marked : unresolvedType ∉ types.map (layout.reference · site.block.name)) :
    (types.map (layout.reference · site.block.name)).flatMap
        (typeDefects (layout.printed.map Site.fullName) site.path site.fullName field) =
      (types.filter fun type => !layout.finds site type).map fun type =>
        .unknownType site.fullName field (layout.reference type site.block.name) := by
  induction types with
  | nil => rfl
  | cons first rest ih =>
      rw [List.map_cons, List.mem_cons, not_or] at marked
      have here : typeDefects (layout.printed.map Site.fullName) site.path site.fullName field
          (layout.reference first site.block.name) =
            if layout.finds site first then []
            else [.unknownType site.fullName field (layout.reference first site.block.name)] := if_neg (Ne.symm marked.1)
      rw [List.map_cons, List.flatMap_cons, here, ih marked.2]
      cases found : layout.finds site first <;> simp [found]

theorem types_told (layout : Layout) (site : Site) (field : Field)
    (marked : field.type.isSome → unresolvedType ∉ printedTypes layout site.block.name field) :
    (printedTypes layout site.block.name field).flatMap
        (typeDefects (layout.printed.map Site.fullName) site.path site.fullName field.name) =
      untyped site field ++ undeclared layout site field := by
  rw [printed_types_eq] at marked ⊢
  cases known : field.type with
  | none => simp [untyped, undeclared, typeNames, typeDefects, known]
  | some type =>
      rw [known, Option.isNone_some, if_neg Bool.false_ne_true] at marked
      rw [Option.isNone_some, if_neg Bool.false_ne_true, known_types_told layout site field.name _ (marked rfl), untyped,
        known, Option.isNone_some, if_neg Bool.false_ne_true, List.nil_append, undeclared]

theorem repeated_number_shared (site : Site) (earlier : List Field) (field : Field)
    (numbered : ∀ other ∈ earlier ++ [field], ∃ n : Nat, other.id = some (n : Int)) :
    repeatedNumber site.fullName earlier field = sharedNumber site earlier field := by
  have same : ∀ other ∈ earlier, decide (fieldNumber other = fieldNumber field) = decide (other.id = field.id) := by
    intro other member
    obtain ⟨own, number⟩ := numbered field (by simp)
    obtain ⟨before, given⟩ := numbered other (by simp [member])
    rw [fieldNumber, fieldNumber, number, given]
    simp only [Option.getD_some, Int.toNat_natCast, Option.some.injEq, Int.natCast_inj]
  rw [repeatedNumber, sharedNumber, List.find?_congr same]

theorem site_message (layout : Layout) (site : Site) (member : site ∈ layout.messages) : site.block.form = .message :=
  of_decide_eq_true (List.mem_filter.mp member).2

theorem message_printed (layout : Layout) (site : Site) (member : site ∈ layout.messages) : site ∈ layout.printed := by
  refine List.mem_filter.mpr ⟨(List.mem_filter.mp member).1, ?_⟩
  simp [site_message layout site member]

theorem site_defects_told (layout : Layout) (site : Site)
    (marked : ∀ field ∈ site.block.definition.allFields, field.type.isSome →
      unresolvedType ∉ printedTypes layout site.block.name field)
    (numbered : ∀ field ∈ site.block.definition.allFields, ∃ n : Nat, field.id = some (n : Int)) :
    siteDefects layout (layout.printed.map Site.fullName) site =
      (withEarlier [] site.block.definition.allFields).flatMap fun pair =>
        sharedNumber site pair.1 pair.2 ++ (untyped site pair.2 ++ undeclared layout site pair.2) := by
  refine List.flatMap_congr fun pair member => ?_
  obtain ⟨earlier, field⟩ := pair
  have inside := (with_earlier_begins [] _ _ member).subset
  rw [fieldDefects, types_told layout site field (marked field (inside (by simp))), repeated_number_shared]
  exact fun other here => numbered other (inside here)

theorem is_declared_at (declared scope : List String) (type : String) (depth : Nat) (bound : depth ≤ scope.length)
    (named : fullName (scope.take depth) type ∈ declared) : isDeclared declared scope type = true :=
  List.any_eq_true.mpr ⟨depth, List.mem_range.mpr (Nat.lt_succ_of_le bound), List.contains_iff_mem.mpr named⟩

section
variable (catalog : Catalog) (spelled : Spelled catalog)
include spelled

theorem scalar_reference (type message : String) (scalar : type ∈ scalarTypes) :
    (Layout.ofCatalog catalog).reference type message = type := by
  have plain : ∀ type ∈ scalarTypes, Schema.Name.nestingPath type = "" ∧ Schema.Name.shownInside type "" = type ∧
      Schema.Name.short type = type := by decide
  obtain ⟨outermost, shown, short⟩ := plain type scalar
  rw [Layout.reference, parent_of_catalog]
  by_cases placed : type ∈ placedNames catalog
  · have top : (placeName catalog.byName catalog.nesting type).parent = "" := by
      rw [place_name_parent, Schema.textual_enclosing _ spelled.textual, outermost, ite_self]
    rw [if_pos placed, top]
    exact if_pos (.inl rfl) |>.trans shown
  · rw [if_neg placed]
    simp [Schema.Name.reference, outermost, short]

theorem known_found (site : Site) (member : site ∈ (Layout.ofCatalog catalog).printed) (type : String)
    (known : Known (Layout.ofCatalog catalog) type) : (Layout.ofCatalog catalog).finds site type = true := by
  rw [Layout.finds, Bool.or_eq_true]
  rcases known with scalar | ⟨target, printed, rfl⟩
  · rw [scalar_reference catalog spelled type _ scalar]
    exact .inl (List.contains_iff_mem.mpr scalar)
  · have declared := List.mem_map_of_mem (f := Site.fullName) printed
    have reference := reference_eq catalog (spelled_rooted catalog spelled) site target printed member
    right
    split at reference
    · refine is_declared_at _ _ _ site.path.length (Nat.le_refl _) ?_
      rwa [List.take_length, reference]
    · refine is_declared_at _ _ _ 0 (Nat.zero_le _) ?_
      rw [List.take_zero, fullName, List.nil_append, String.intercalate_singleton]
      rwa [reference]

end

structure Sound (layout : Layout) (definition : Definition) : Prop where
  distinct : (definition.allFields.map (·.id)).Nodup
  typed : ∀ field ∈ definition.allFields, field.type.isSome
  known : ∀ field ∈ definition.allFields, ∀ type ∈ typeNames field, Known layout type

structure Told (layout : Layout) (issues : List Issue) : Prop where
  -- What a report says of each kind, in the order of the document.
  readable : saying issues "syntax_error" = []
  labels : saying issues "forbidden_label" = []
  bare : saying issues "unknown_entity" =
    (layout.bare.map fun site => Defect.unknownEntity site.block.name).map (·.message)
  untyped : saying issues "placeholder_type" =
    (layout.messages.flatMap fun site => site.block.definition.allFields.flatMap (untyped site)).map (·.message)
  numbers : saying issues "duplicate_field_number" =
    (layout.messages.flatMap fun site => (withEarlier [] site.block.definition.allFields).flatMap fun pair =>
      sharedNumber site pair.1 pair.2).map (·.message)
  types : saying issues "unknown_type" =
    (layout.messages.flatMap fun site => site.block.definition.allFields.flatMap (undeclared layout site)).map (·.message)
  known : ∀ site ∈ layout.messages, ∀ type, Known layout type → layout.finds site type = true
  clean : layout.bare = [] → (∀ site ∈ layout.messages, Sound layout site.block.definition) → issues = []

theorem shared_uniform (site : Site) (earlier : List Field) (field : Field) :
    Uniform "duplicate_field_number" (sharedNumber site earlier field) := by
  intro defect member
  unfold sharedNumber at member
  cases found : earlier.find? fun other => other.id = field.id with
  | none =>
      rw [found] at member
      cases member
  | some first =>
      rw [found] at member
      exact List.mem_singleton.mp member ▸ rfl

theorem untyped_uniform (site : Site) (field : Field) : Uniform "placeholder_type" (untyped site field) := by
  intro defect member
  unfold untyped at member
  split at member
  · exact List.mem_singleton.mp member ▸ rfl
  · cases member

theorem undeclared_uniform (layout : Layout) (site : Site) (field : Field) :
    Uniform "unknown_type" (undeclared layout site field) := by
  intro defect member
  obtain ⟨type, _, rfl⟩ := List.mem_map.mp member
  rfl

theorem bare_uniform (sites : List Site) :
    Uniform "unknown_entity" (sites.map fun site => .unknownEntity site.block.name) := by
  intro defect member
  obtain ⟨site, _, rfl⟩ := List.mem_map.mp member
  rfl

theorem defects_of_kind (layout : Layout) (marked : Marked layout)
    (numbered : ∀ site ∈ layout.messages, ∀ field ∈ site.block.definition.allFields, ∃ n : Nat, field.id = some (n : Int))
    (kind : String) :
    Defect.ofKind kind layout.defects =
      (if "unknown_entity" = kind then layout.bare.map fun site => .unknownEntity site.block.name else []) ++
        layout.messages.flatMap fun site => (withEarlier [] site.block.definition.allFields).flatMap fun pair =>
          (if "duplicate_field_number" = kind then sharedNumber site pair.1 pair.2 else []) ++
            ((if "placeholder_type" = kind then untyped site pair.2 else []) ++
              (if "unknown_type" = kind then undeclared layout site pair.2 else [])) := by
  have messages : Defect.ofKind kind (layout.messages.flatMap (siteDefects layout (layout.printed.map Site.fullName))) =
      layout.messages.flatMap fun site => Defect.ofKind kind ((withEarlier [] site.block.definition.allFields).flatMap
        fun pair => sharedNumber site pair.1 pair.2 ++ (untyped site pair.2 ++ undeclared layout site pair.2)) := by
    rw [of_kind_flat_map]
    refine List.flatMap_congr fun site member => ?_
    rw [site_defects_told layout site (marked site member) (numbered site member)]
  rw [Layout.defects, of_kind_append, of_kind_uniform kind _ _ (bare_uniform layout.bare), messages]
  simp only [of_kind_flat_map, of_kind_append, of_kind_uniform kind _ _ (shared_uniform _ _ _),
    of_kind_uniform kind _ _ (untyped_uniform _ _), of_kind_uniform kind _ _ (undeclared_uniform layout _ _)]

theorem no_shared_number (site : Site) (fields : List Field) (distinct : (fields.map (·.id)).Nodup)
    (pair : List Field × Field) (member : pair ∈ withEarlier [] fields) : sharedNumber site pair.1 pair.2 = [] := by
  have start := (with_earlier_begins [] fields pair member).sublist.map (·.id)
  have apart := start.nodup distinct
  rw [List.map_append, List.nodup_append] at apart
  have fresh : pair.1.find? (fun other => other.id = pair.2.id) = none := by
    refine List.find?_eq_none.mpr fun other earlier same => ?_
    exact apart.2.2 other.id (List.mem_map_of_mem earlier) pair.2.id List.mem_cons_self (of_decide_eq_true same)
  rw [sharedNumber, fresh]
  rfl

theorem no_undeclared (layout : Layout) (site : Site) (field : Field)
    (found : ∀ type ∈ typeNames field, layout.finds site type = true) : undeclared layout site field = [] := by
  have none : ((typeNames field).filter fun type => !layout.finds site type) = [] :=
    List.filter_eq_nil_iff.mpr fun type member => by simp [found type member]
  rw [undeclared, none, List.map_nil]

theorem message_numbered (settings : Settings) (edition : Edition) (catalog : Catalog)
    (writable : Writable settings edition catalog) (site : Site) (member : site ∈ (Layout.ofCatalog catalog).messages) :
    ∀ field ∈ site.block.definition.allFields, ∃ n : Nat, field.id = some (n : Int) := by
  obtain ⟨placement, present, same⟩ := layout_site catalog writable.spelled site (List.mem_filter.mp member).1
  have printable := placement_printable settings edition catalog writable placement present
  rw [← same] at printable
  intro field inside
  obtain ⟨outer, own, within⟩ := List.mem_flatMap.mp inside
  have allowed := printable.members outer own
  cases outer with
  | field single => exact List.mem_singleton.mp within ▸ allowed.numbered
  | oneof group => exact (allowed.2 field within).numbered

theorem no_defects (layout : Layout) (marked : Marked layout)
    (numbered : ∀ site ∈ layout.messages, ∀ field ∈ site.block.definition.allFields, ∃ n : Nat, field.id = some (n : Int))
    (found : ∀ site ∈ layout.messages, ∀ type, Known layout type → layout.finds site type = true)
    (bare : layout.bare = []) (sound : ∀ site ∈ layout.messages, Sound layout site.block.definition) :
    layout.defects = [] := by
  rw [Layout.defects, bare, List.map_nil, List.nil_append, List.flatMap_eq_nil_iff]
  intro site member
  rw [site_defects_told layout site (marked site member) (numbered site member), List.flatMap_eq_nil_iff]
  intro pair inside
  have field := (with_earlier_begins [] _ _ inside).subset (List.mem_append_right _ List.mem_cons_self)
  have typed := (sound site member).typed pair.2 field
  rw [no_shared_number site _ (sound site member).distinct pair inside, List.nil_append, untyped,
    if_neg (by simpa using Option.isSome_iff_ne_none.mp typed), List.nil_append]
  exact no_undeclared layout site pair.2 fun type here =>
    found site member type ((sound site member).known pair.2 field type here)

theorem report_told (settings : Settings) (edition : Edition) (catalog : Catalog)
    (writable : Writable settings edition catalog) (marked : Marked (Layout.ofCatalog catalog)) :
    Told (Layout.ofCatalog catalog) (check (Document.ofCatalog settings edition catalog).text) := by
  have numbered := message_numbered settings edition catalog writable
  have said := check_said settings edition catalog writable
  have telling (kind : String) := (saying_said _ _ said kind).trans
    (congrArg (List.map (·.message)) (defects_of_kind _ marked numbered kind))
  have found (site : Site) (member : site ∈ (Layout.ofCatalog catalog).messages) :=
    known_found catalog writable.spelled site (message_printed _ site member)
  refine ⟨?_, ?_, ?_, ?_, ?_, ?_, found, ?_⟩
  · rw [telling]
    simp
  · rw [telling]
    simp
  · rw [telling]
    simp
  · rw [telling]
    simp [with_earlier_fields (untyped _)]
  · rw [telling]
    simp
  · rw [telling]
    simp [with_earlier_fields (undeclared _ _)]
  · intro bare sound
    have none := no_defects _ marked numbered found bare sound
    rw [none] at said
    exact List.map_eq_nil_iff.mp said

theorem documented_blocks : (Layout.ofCatalog documented).blocks =
    forest (["Bare", "Outer", "Outer$Kind"].map (placeName documented.byName documented.nesting)) "" := by
  rw [Layout.blocks, placements_eq, documented_placed]

theorem documented_message (site : Site) (member : site ∈ (Layout.ofCatalog documented).messages) :
    site.block.name = "Outer" ∧ site.block.definition.allFields =
      [{ name := "message", id := some 1, type := some "int32", flags := ["repeated", "packed"] },
        { name := "kinds", id := some 2, type := some "map", mapTypes := some ("string", "Outer$Kind") },
        { name := "kind", id := some 3, type := some "Outer$Kind" }, { name := "lost", id := some 0 }] := by
  rw [Layout.messages, documented_blocks] at member
  exact List.mem_singleton.mp member ▸ ⟨rfl, rfl⟩

theorem documented_marked : Marked (Layout.ofCatalog documented) := by
  have kind := documented_reference "Outer$Kind" "Kind" (by simp)
  have text := documented_reference "string" "string" (by simp)
  have number := documented_reference "int32" "int32" (by simp)
  intro site member field inside typed
  obtain ⟨named, all⟩ := documented_message site member
  rw [all] at inside
  rw [named]
  simp only [List.mem_cons, List.not_mem_nil, or_false] at inside
  rcases inside with rfl | rfl | rfl | rfl
  · simp only [printedTypes, number]; decide
  · simp only [printedTypes, text, kind]; decide
  · simp only [printedTypes, kind]; decide
  · cases typed

theorem report_told_documented :
    Writable {} ⟨"2.3000", "2024-01-31T12:00:00.000Z"⟩ documented ∧ Marked (Layout.ofCatalog documented) ∧
      saying (check (Document.ofCatalog {} ⟨"2.3000", "2024-01-31T12:00:00.000Z"⟩ documented).text) "placeholder_type" =
        ["Outer.lost has no resolved type"] ∧
      saying (check (Document.ofCatalog {} ⟨"2.3000", "2024-01-31T12:00:00.000Z"⟩ documented).text) "unknown_entity" =
        ["'Bare' could not be rendered"] := by
  have told := report_told {} _ documented documented_writable documented_marked
  refine ⟨documented_writable, documented_marked, told.untyped.trans ?_, told.bare.trans ?_⟩
  · rw [Layout.messages, documented_blocks]
    rfl
  · rw [Layout.bare, documented_blocks]
    rfl

def misnamed : Catalog where
  modules := [⟨"Misnamed", .leaf .empty, [], [
    { name := "A", members := some [.field { name := "f", id := some 1, type := some "A$__unresolved__" }] },
    { name := "A$__unresolved__", nestingPath := "A", members := some [] }]⟩]

theorem misnamed_placed : placedNames misnamed = ["A", "A$__unresolved__"] := by
  have ways : placedNames misnamed = ([["A"], ["A$__unresolved__", "A"]].flatMap List.reverse).eraseDups := by
    refine placed_names_eq misnamed ["A", "A$__unresolved__"] _ (by decide) ?_ ?_
    · intro name
      simp [Defined, Catalog.definitions, misnamed, eq_comm]
    · have top : WayOut misnamed.nesting "A" ["A"] := .top _ (by decide)
      exact .cons top (.cons (.step _ _ (by decide) top) .nil)
  rw [ways]
  decide

theorem misnamed_blocks : (Layout.ofCatalog misnamed).blocks =
    forest (["A", "A$__unresolved__"].map (placeName misnamed.byName misnamed.nesting)) "" := by
  rw [Layout.blocks, placements_eq, misnamed_placed]

theorem misnamed_reference : (Layout.ofCatalog misnamed).reference "A$__unresolved__" "A" = "__unresolved__" := by
  rw [Layout.reference, parent_of_catalog, misnamed_placed]
  rfl

theorem misnamed_writable : Writable {} ⟨"2.3000", "2024-01-31T12:00:00.000Z"⟩ misnamed where
  spelled := ⟨by decide, Schema.textual_empty⟩
  members := by
    intro definition member
    simp only [Catalog.definitions, misnamed, List.flatMap_cons, List.flatMap_nil, List.append_nil, List.mem_cons,
      List.not_mem_nil, or_false] at member
    rcases member with rfl | rfl
    · intro inner inside
      rw [List.mem_singleton.mp inside]
      exact ⟨by decide, ⟨1, rfl⟩, by decide, by simp only [printedTypes, misnamed_reference]; decide,
        fun same => absurd same (by decide)⟩
    · exact fun _ inside => absurd inside List.not_mem_nil
  values := by decide
  package := dotted_single _ (by decide)
  label := by decide
  version := by decide
  generatedOn := by decide

theorem misnamed_message (site : Site) (member : site ∈ (Layout.ofCatalog misnamed).messages) :
    site.block.definition ∈ misnamed.definitions := by
  rw [Layout.messages, misnamed_blocks] at member
  have both : site ∈ [⟨["A"], _⟩, ⟨["A", "__unresolved__"], _⟩] := member
  simp only [List.mem_cons, List.not_mem_nil, or_false] at both
  rcases both with rfl | rfl
  · exact List.mem_cons_self
  · exact List.mem_cons_of_mem _ List.mem_cons_self

theorem misnamed_sound (definition : Definition) (defined : definition ∈ misnamed.definitions) :
    Sound (Layout.ofCatalog misnamed) definition where
  distinct := by
    revert definition
    decide
  typed := by
    revert definition
    decide
  known := by
    have only : ∀ definition ∈ misnamed.definitions, ∀ field ∈ definition.allFields, ∀ type ∈ typeNames field,
        type = "A$__unresolved__" := by decide
    have printed : ⟨["A", "__unresolved__"], .node { name := "A$__unresolved__", nestingPath := "A", members := some [] }
        "__unresolved__" []⟩ ∈ (Layout.ofCatalog misnamed).printed := by
      rw [Layout.printed, misnamed_blocks]
      exact List.mem_cons_of_mem _ List.mem_cons_self
    exact fun field inside type named => .inr ⟨_, printed, (only definition defined field inside type named).symm⟩

theorem misnamed_defects : (Layout.ofCatalog misnamed).defects = [.placeholderType "A" "f"] := by
  have told (layout : Layout) (declared : List String)
      (same : layout.blocks =
        forest (["A", "A$__unresolved__"].map (placeName misnamed.byName misnamed.nesting)) "") :
      layout.messages.flatMap (siteDefects layout declared) =
        typeDefects declared ["A"] "A" "f" (layout.reference "A$__unresolved__" "A") := by
    rw [Layout.messages, same]
    change ((typeDefects declared ["A"] "A" "f" (layout.reference "A$__unresolved__" "A") ++ []) ++ []) ++ [] = _
    simp only [List.append_nil]
  rw [Layout.defects, told _ _ misnamed_blocks, misnamed_reference, Layout.bare, misnamed_blocks]
  rfl

theorem mark_reported_for_known_type :
    Writable {} ⟨"2.3000", "2024-01-31T12:00:00.000Z"⟩ misnamed ∧
      (∀ definition ∈ misnamed.definitions, definition.name ≠ unresolvedType ∧
        ∀ field ∈ definition.allFields, field.name ≠ unresolvedType ∧ unresolvedType ∉ typeNames field) ∧
      (Layout.ofCatalog misnamed).bare = [] ∧
      (∀ site ∈ (Layout.ofCatalog misnamed).messages, Sound (Layout.ofCatalog misnamed) site.block.definition) ∧
      saying (check (Document.ofCatalog {} ⟨"2.3000", "2024-01-31T12:00:00.000Z"⟩ misnamed).text) "placeholder_type" =
        ["A.f has no resolved type"] := by
  refine ⟨misnamed_writable, by decide, ?_, fun site member => misnamed_sound _ (misnamed_message site member), ?_⟩
  · rw [Layout.bare, misnamed_blocks]
    rfl
  · rw [saying_said _ _ (check_said {} _ misnamed misnamed_writable), misnamed_defects]
    rfl

end SchemaRecovery.Proto
