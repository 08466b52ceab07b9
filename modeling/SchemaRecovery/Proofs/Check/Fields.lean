import SchemaRecovery.Proofs.Document.Declarations
import SchemaRecovery.Proofs.Layout.Once
import SchemaRecovery.Proto.Check

set_option autoImplicit false

namespace SchemaRecovery.Proto

open Schema (Definition Field Member)

def Issue.said (issue : Issue) : String × String := (issue.kind, issue.message)

def Defect.said (defect : Defect) : String × String := (defect.kind, defect.message)

@[simp] theorem defect_at_said (defect : Defect) (line : Nat) : (defect.at line).said = defect.said := rfl

def withEarlier (earlier : List Field) : List Field → List (List Field × Field)
  | [] => []
  | field :: rest => (earlier, field) :: withEarlier (earlier ++ [field]) rest

theorem with_earlier_begins (earlier fields : List Field) (pair : List Field × Field)
    (member : pair ∈ withEarlier earlier fields) : pair.1 ++ [pair.2] <+: earlier ++ fields := by
  induction fields generalizing earlier with
  | nil => exact absurd member List.not_mem_nil
  | cons first rest ih =>
      rw [withEarlier, List.mem_cons] at member
      rcases member with rfl | later
      · exact ⟨rest, by simp⟩
      · simpa using ih (earlier ++ [first]) later

theorem with_earlier_fields {α : Type} (told : Field → List α) (earlier fields : List Field) :
    ((withEarlier earlier fields).flatMap fun pair => told pair.2) = fields.flatMap told := by
  induction fields generalizing earlier with
  | nil => rfl
  | cons first rest ih => rw [withEarlier, List.flatMap_cons, List.flatMap_cons, ih]

def fieldNumber (field : Field) : Nat := (field.id.getD 0).toNat

def repeats (owner : String) (field : Field) : Option Field → List Defect
  | none => []
  | some first => [.duplicateNumber owner first.name field.name (fieldNumber field)]

def repeatedNumber (owner : String) (earlier : List Field) (field : Field) : List Defect :=
  repeats owner field (earlier.find? fun other => fieldNumber other = fieldNumber field)

def fieldDefects (layout : Layout) (declared : List String) (site : Site) (earlier : List Field) (field : Field) :
    List Defect :=
  repeatedNumber site.fullName earlier field ++
    (printedTypes layout site.block.name field).flatMap (typeDefects declared site.path site.fullName field.name)

def siteDefects (layout : Layout) (declared : List String) (site : Site) : List Defect :=
  (withEarlier [] site.block.definition.allFields).flatMap fun pair => fieldDefects layout declared site pair.1 pair.2

def Site.isMessage (site : Site) : Bool := site.block.form = .message

def Layout.messages (layout : Layout) : List Site := (Block.sitesOf [] layout.blocks).filter Site.isMessage

structure Describes (layout : Layout) (message : String) (field : Field) (declaration : FieldDeclaration) : Prop where
  name : declaration.name = field.name
  number : declaration.number = fieldNumber field
  types : declaration.types = printedTypes layout message field
  label : declaration.label = none ∨ declaration.label = some .repeated

section Fields
variable (layout : Layout) (message : String)

theorem declaration_describes (place : FieldPlace) (line : Nat) (field : Field) :
    Describes layout message field (fieldDeclaration layout message place line field) := by
  refine ⟨rfl, rfl, rfl, ?_⟩
  cases kept : keepsRepeated place field <;> simp [fieldDeclaration, kept]

theorem oneof_describes (line : Nat) (fields : List Field) :
    List.Forall₂ (Describes layout message) fields (oneofDeclarations layout message line fields) := by
  induction fields generalizing line with
  | nil => exact .nil
  | cons field rest ih => exact .cons (declaration_describes layout message .inOneof line field) (ih (line + 1))

theorem members_describe (line : Nat) (members : List Member) :
    List.Forall₂ (Describes layout message) (members.flatMap (·.fields))
      (fieldsOf (memberDeclarations layout message line members)) := by
  induction members generalizing line with
  | nil => exact .nil
  | cons member rest ih =>
      rw [memberDeclarations, fieldsOf, List.flatMap_cons, List.flatMap_cons]
      refine List.rel_append ?_ (ih _)
      cases member with
      | field single => exact .cons (declaration_describes layout message .alone line single) .nil
      | oneof group => exact oneof_describes layout message (line + 1) group.members

theorem find_described (earlier : List Field) (declarations : List FieldDeclaration)
    (described : List.Forall₂ (Describes layout message) earlier declarations) (number : Nat) :
    (declarations.find? fun other => other.number = number).map (·.name) =
      (earlier.find? fun other => fieldNumber other = number).map (·.name) := by
  induction described with
  | nil => rfl
  | cons first _ ih =>
      rw [List.find?_cons, List.find?_cons, first.number]
      split
      · exact congrArg some first.name
      · exact ih

theorem number_defects_described (owner : String) (earlier : List Field) (declarations : List FieldDeclaration)
    (described : List.Forall₂ (Describes layout message) earlier declarations) (field : Field)
    (declaration : FieldDeclaration) (here : Describes layout message field declaration) :
    numberDefects owner declarations declaration = repeatedNumber owner earlier field := by
  have first := find_described layout message earlier declarations described (fieldNumber field)
  rw [numberDefects, repeatedNumber, here.number, here.name]
  cases found : declarations.find? fun other => other.number = fieldNumber field with
  | none =>
      rw [found] at first
      rw [Option.map_eq_none_iff.mp first.symm]
      rfl
  | some other =>
      rw [found, Option.map_some] at first
      obtain ⟨known, present, same⟩ := Option.map_eq_some_iff.mp first.symm
      rw [present]
      simp only [repeats, same]

theorem label_defects_described (owner : String) (field : Field) (declaration : FieldDeclaration)
    (here : Describes layout message field declaration) : labelDefects owner declaration = [] := by
  rw [labelDefects]
  rcases here.label with none | repeated
  · rw [none]
  · rw [repeated]
    rfl

end Fields

theorem fields_issues_said (layout : Layout) (declared : List String) (site : Site) (earlier fields : List Field)
    (before declarations : List FieldDeclaration)
    (known : List.Forall₂ (Describes layout site.block.name) earlier before)
    (described : List.Forall₂ (Describes layout site.block.name) fields declarations) :
    (fieldsIssues declared site.path before declarations).map Issue.said =
      ((withEarlier earlier fields).flatMap fun pair =>
        fieldDefects layout declared site pair.1 pair.2).map Defect.said := by
  -- Fields and declarations are gone through side by side, with those that have been passed in
  -- `earlier` and `before`.
  induction described generalizing earlier before with
  | nil => rfl
  | @cons field declaration _ _ first _ ih =>
      have further := ih (earlier ++ [field]) (before ++ [declaration]) (List.rel_append known (.cons first .nil))
      have here : (fieldIssues declared site.path before declaration).map Issue.said =
          (fieldDefects layout declared site earlier field).map Defect.said := by
        rw [fieldIssues, List.map_map, fieldDefects, label_defects_described layout _ _ field declaration first,
          number_defects_described layout _ _ earlier before known field declaration first, first.types, first.name,
          List.append_nil]
        rfl
      rw [fieldsIssues, withEarlier, List.map_append, List.flatMap_cons, List.map_append, further, here]

theorem declared_in_append (scope : List String) (a b : List Declaration) :
    declaredInAll scope (a ++ b) = declaredInAll scope a ++ declaredInAll scope b := by
  induction a with
  | nil => rfl
  | cons first rest ih => rw [List.cons_append, declaredInAll, declaredInAll, ih, List.append_assoc]

theorem messages_issues_append (declared scope : List String) (a b : List Declaration) :
    messagesIssues declared scope (a ++ b) = messagesIssues declared scope a ++ messagesIssues declared scope b := by
  induction a with
  | nil => rfl
  | cons first rest ih => rw [List.cons_append, messagesIssues, messagesIssues, ih, List.append_assoc]

theorem fields_of_append (a b : List Declaration) : fieldsOf (a ++ b) = fieldsOf a ++ fieldsOf b :=
  List.flatMap_append

theorem members_declare_none (layout : Layout) (message : String) (line : Nat) (scope declared : List String)
    (members : List Member) : declaredInAll scope (memberDeclarations layout message line members) = [] ∧
      messagesIssues declared scope (memberDeclarations layout message line members) = [] := by
  induction members generalizing line with
  | nil => exact ⟨rfl, rfl⟩
  | cons member rest ih =>
      obtain ⟨names, issues⟩ := ih (line + memberHeight member)
      rw [memberDeclarations, declaredInAll, messagesIssues, names, issues]
      cases member <;> exact ⟨rfl, rfl⟩

theorem block_no_fields (layout : Layout) (line : Nat) (block : Block) : fieldsOf (block.declarations layout line) = [] := by
  cases block with
  | node definition shown nested =>
      rw [Block.declarations]
      split <;> rfl

theorem blocks_no_fields (layout : Layout) (line : Nat) (blocks : List Block) :
    fieldsOf (Block.declarationsOf layout line blocks) = [] := by
  induction blocks generalizing line with
  | nil => rfl
  | cons first rest ih => rw [Block.declarationsOf, fields_of_append, block_no_fields, ih, List.append_nil]

def printedNames (sites : List Site) : List String :=
  (sites.filter fun site => site.block.form ≠ .unknown).map Site.fullName

theorem printed_names_append (a b : List Site) : printedNames (a ++ b) = printedNames a ++ printedNames b := by
  simp [printedNames]

mutual
theorem block_declares (layout : Layout) (line : Nat) (scope : List String) (block : Block) :
    declaredInAll scope (block.declarations layout line) = printedNames (block.sites scope) := by
  cases block with
  | node definition shown nested =>
      have further := blocks_declare layout (line + 1 + membersHeight definition.memberList) (scope ++ [shown]) nested
      rw [Block.declarations, Block.sites]
      cases form : formOf definition nested with
      | message =>
          simp only [declaredInAll, declaredIn, declared_in_append,
            (members_declare_none layout definition.name (line + 1) (scope ++ [shown]) [] definition.memberList).1, further]
          simp [printedNames, Block.form, Block.definition, Block.nested, form, Site.fullName, fullName]
      | enum =>
          have alone := nested_nil definition nested (by simp [form])
          subst alone
          simp [declaredInAll, declaredIn, printedNames, Block.sitesOf, Block.form, Block.definition, Block.nested, form,
            Site.fullName, fullName]
      | unknown =>
          have alone := nested_nil definition nested (by simp [form])
          subst alone
          simp [declaredInAll, printedNames, Block.sitesOf, Block.form, Block.definition, Block.nested, form]
theorem blocks_declare (layout : Layout) (line : Nat) (scope : List String) (blocks : List Block) :
    declaredInAll scope (Block.declarationsOf layout line blocks) = printedNames (Block.sitesOf scope blocks) := by
  cases blocks with
  | nil => rfl
  | cons first rest =>
      rw [Block.declarationsOf, Block.sitesOf, declared_in_append, printed_names_append,
        block_declares layout line scope first, blocks_declare layout (line + first.height) scope rest]
end

def messageDefects (layout : Layout) (declared : List String) (sites : List Site) : List Defect :=
  (sites.filter Site.isMessage).flatMap (siteDefects layout declared)

theorem message_defects_append (layout : Layout) (declared : List String) (a b : List Site) :
    messageDefects layout declared (a ++ b) = messageDefects layout declared a ++ messageDefects layout declared b := by
  simp [messageDefects]

mutual
theorem block_issues_said (layout : Layout) (declared : List String) (line : Nat) (scope : List String) (block : Block) :
    (messagesIssues declared scope (block.declarations layout line)).map Issue.said =
      (messageDefects layout declared (block.sites scope)).map Defect.said := by
  cases block with
  | node definition shown nested =>
      have further := blocks_issues_said layout declared (line + 1 + membersHeight definition.memberList) (scope ++ [shown])
        nested
      rw [Block.declarations, Block.sites]
      cases form : formOf definition nested with
      | message =>
          have own := fields_issues_said layout declared ⟨scope ++ [shown], .node definition shown nested⟩ [] _ [] _ .nil
            (members_describe layout definition.name (line + 1) definition.memberList)
          have isMessage : Site.isMessage ⟨scope ++ [shown], .node definition shown nested⟩ = true := by
            simp [Site.isMessage, Block.form, Block.definition, Block.nested, form]
          simp only [messagesIssues, messageIssues, fields_of_append, blocks_no_fields, List.append_nil,
            messages_issues_append, (members_declare_none layout definition.name (line + 1) (scope ++ [shown]) declared
              definition.memberList).2, List.nil_append, List.map_append, further]
          rw [messageDefects, messageDefects, List.filter_cons_of_pos isMessage, List.flatMap_cons, List.map_append]
          exact congrArg (· ++ _) own
      | enum =>
          have alone := nested_nil definition nested (by simp [form])
          subst alone
          simp [messagesIssues, messageIssues, messageDefects, Block.sitesOf, Site.isMessage, Block.form, Block.definition,
            Block.nested, form]
      | unknown =>
          have alone := nested_nil definition nested (by simp [form])
          subst alone
          simp [messagesIssues, messageDefects, Block.sitesOf, Site.isMessage, Block.form, Block.definition, Block.nested,
            form]
theorem blocks_issues_said (layout : Layout) (declared : List String) (line : Nat) (scope : List String)
    (blocks : List Block) :
    (messagesIssues declared scope (Block.declarationsOf layout line blocks)).map Issue.said =
      (messageDefects layout declared (Block.sitesOf scope blocks)).map Defect.said := by
  cases blocks with
  | nil => rfl
  | cons first rest =>
      rw [Block.declarationsOf, Block.sitesOf, messages_issues_append, message_defects_append, List.map_append,
        List.map_append, block_issues_said layout declared line scope first,
        blocks_issues_said layout declared (line + first.height) scope rest]
end

theorem top_declares (layout : Layout) (line : Nat) (blocks : List Block) :
    declaredInAll [] (topDeclarations layout line blocks) = printedNames (Block.sitesOf [] blocks) := by
  induction blocks generalizing line with
  | nil => rfl
  | cons first rest ih =>
      rw [topDeclarations, Block.sitesOf, declared_in_append, printed_names_append, block_declares, ih]

theorem top_issues_said (layout : Layout) (declared : List String) (line : Nat) (blocks : List Block) :
    (messagesIssues declared [] (topDeclarations layout line blocks)).map Issue.said =
      (messageDefects layout declared (Block.sitesOf [] blocks)).map Defect.said := by
  induction blocks generalizing line with
  | nil => rfl
  | cons first rest ih =>
      rw [topDeclarations, Block.sitesOf, messages_issues_append, message_defects_append, List.map_append, List.map_append,
        block_issues_said, ih]

end SchemaRecovery.Proto
