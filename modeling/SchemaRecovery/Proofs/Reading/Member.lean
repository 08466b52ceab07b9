import SchemaRecovery.Proofs.Reading.Refusal

set_option autoImplicit false

namespace SchemaRecovery.Proto

open Schema (EnumValue Field IsName Member)

def indentedText (spaces : List Char) (lines : List String) : List Char :=
  lines.flatMap fun line => spaces ++ (line.toList ++ ['\n'])

@[simp] theorem indented_nil (spaces : List Char) : indentedText spaces [] = [] := rfl

@[simp] theorem indented_cons (spaces : List Char) (line : String) (lines : List String) :
    indentedText spaces (line :: lines) = spaces ++ (line.toList ++ '\n' :: indentedText spaces lines) := by
  simp [indentedText]

@[simp] theorem indented_append (spaces : List Char) (a b : List String) :
    indentedText spaces (a ++ b) = indentedText spaces a ++ indentedText spaces b :=
  List.flatMap_append

theorem indented_deeper (spaces : List Char) (indent : String) (lines : List String) :
    indentedText spaces (indentLines indent lines) = indentedText (spaces ++ indent.toList) lines := by
  induction lines with
  | nil => rfl
  | cons line lines ih =>
      rw [indentLines, List.map_cons, indented_cons, indented_cons, String.toList_append]
      rw [indentLines] at ih
      simp [ih]

def PrintableMember (layout : Layout) (message : String) : Member → Prop
  | .field single => PrintableField layout message .alone single
  | .oneof group => IsName group.name ∧ ∀ field ∈ group.members, PrintableField layout message .inOneof field

def LetteredMember (layout : Layout) (message : String) : Member → Prop
  | .field single => LetteredField layout message single
  | .oneof group => IsName group.name ∧ ∀ field ∈ group.members, LetteredField layout message field

def LegibleFields (layout : Layout) (message : String) : Spot → List Field → Prop
  | _, [] => True
  | spot, field :: rest => LegibleField layout message spot field ∧ LegibleFields layout message .inGroup rest

def LegibleMember (layout : Layout) (message : String) : Member → Prop
  | .field single => LegibleField layout message .inMessage single
  | .oneof group => LegibleFields layout message .opensGroup group.members

theorem printable_legible_fields (layout : Layout) (message : String) (spot : Spot) (grouped : spot.place = .inOneof)
    (fields : List Field) (printable : ∀ field ∈ fields, PrintableField layout message .inOneof field) :
    LegibleFields layout message spot fields := by
  induction fields generalizing spot with
  | nil => trivial
  | cons field fields ih =>
      have here := printable field List.mem_cons_self
      refine ⟨printable_legible layout message spot field (grouped ▸ here), ih .inGroup rfl ?_⟩
      exact fun other member => printable other (List.mem_cons_of_mem _ member)

theorem printable_member (layout : Layout) (message : String) (member : Member)
    (printable : PrintableMember layout message member) :
    LetteredMember layout message member ∧ LegibleMember layout message member := by
  cases member with
  | field single =>
      exact ⟨printable_lettered layout message .alone single printable,
        printable_legible layout message .inMessage single printable⟩
  | oneof group =>
      refine ⟨⟨printable.1, fun field inside => ?_⟩,
        printable_legible_fields layout message .opensGroup rfl group.members printable.2⟩
      exact printable_lettered layout message .inOneof field (printable.2 field inside)

theorem value_line_chars (value : EnumValue) : (valueLine value).toList =
    value.name.toList ++ ' ' :: '=' :: ' ' :: (Decimal.intDigits value.id ++ [';']) := by
  simp [valueLine, Decimal.intNumeral]

section
variable (layout : Layout) (message : String) (spaces : List Char) (blank : ∀ c ∈ spaces, c = ' ')
  (outcome : Outcome)

theorem reads_block_open (machine : Machine) (kind : BlockKind) (name : String) (line : Nat) (rest : List Char)
    (named : IsName name) (further : Reads (machine.openBlock name line kind) (line + 1) rest outcome) :
    Reads { machine with point := .blockName kind } line (' ' :: (name.toList ++ ' ' :: '\x7b' :: '\n' :: rest)) outcome := by
  apply reads_space
  refine reads_any_name _ line outcome { machine with point := .blockOpen kind name line } name ' ' _ named (by decide) rfl
    (fun _ => rfl) ?_
  apply reads_space
  refine reads_mark _ line outcome (machine.openBlock name line kind) .leftBrace _ rfl (fun _ _ => ?_) ?_
  · cases kind <;> rfl
  · exact reads_line_feed _ line outcome rest further

include blank

theorem reads_oneof_fields (fields : List Field) (lettered : ∀ field ∈ fields, LetteredField layout message field)
    (spot : Spot) (grouped : spot.place = .inOneof) (name : String) (nameLine : Nat)
    (read : List FieldDeclaration) (owner : String) (ownerLine : Nat) (members : List Declaration) (outer : List Frame)
    (done : List Declaration) (line : Nat) (rest : List Char)
    (further : LegibleFields layout message spot fields → ∀ spot : Spot, spot.place = .inOneof →
      Reads ⟨spot.point, .oneof name nameLine ((oneofDeclarations layout message line fields).reverse ++ read) ::
        .message owner ownerLine members :: outer, done⟩ (line + fields.length) rest outcome)
    (refused : ¬ LegibleFields layout message spot fields → outcome.Faulty) :
    Reads ⟨spot.point, .oneof name nameLine read :: .message owner ownerLine members :: outer, done⟩ line
      (indentedText spaces (fields.map (fieldLine layout message .inOneof)) ++ rest) outcome := by
  induction fields generalizing spot read line with
  | nil => exact further trivial spot grouped
  | cons field fields ih =>
      rw [List.map_cons, indented_cons, List.append_assoc]
      refine reads_spaces _ _ _ _ _ blank ?_
      rw [List.append_assoc, List.cons_append]
      have start : FieldStart spot ⟨spot.point, .oneof name nameLine read :: .message owner ownerLine members :: outer,
          done⟩ := .oneof spot grouped name nameLine read owner ownerLine members outer done
      rw [← grouped]
      refine reads_field _ line outcome _ layout message spot field _ start (lettered field List.mem_cons_self) rfl
        (fun legible => ?_) fun illegible => refused fun all => illegible all.1
      rw [grouped]
      refine ih (fun other member => lettered other (List.mem_cons_of_mem _ member)) .inGroup rfl _ _ ?_
        fun illegible => refused fun all => illegible all.2
      intro legibleRest next nextGrouped
      have later := further ⟨legible, legibleRest⟩ next nextGrouped
      rw [oneofDeclarations, List.reverse_cons, List.append_assoc, List.length_cons] at later
      rw [Nat.add_assoc, Nat.add_comm 1]
      exact later

theorem reads_member (indent : String) (indentBlank : ∀ c ∈ indent.toList, c = ' ') (member : Member)
    (lettered : LetteredMember layout message member) (owner : String) (ownerLine : Nat) (members : List Declaration)
    (outer : List Frame) (done : List Declaration) (line : Nat) (rest : List Char)
    (further : LegibleMember layout message member →
      Reads ⟨.messageBody, .message owner ownerLine (memberDeclaration layout message line member :: members) ::
        outer, done⟩ (line + memberHeight member) rest outcome)
    (refused : ¬ LegibleMember layout message member → outcome.Faulty) :
    Reads ⟨.messageBody, .message owner ownerLine members :: outer, done⟩ line
      (indentedText spaces (memberLines layout indent message member) ++ rest) outcome := by
  cases member with
  | field single =>
      rw [memberLines, indented_cons, indented_nil, List.append_assoc]
      refine reads_spaces _ _ _ _ _ blank ?_
      rw [List.append_assoc, List.cons_append, List.nil_append]
      exact reads_field _ line outcome _ layout message .inMessage single _ (.message owner ownerLine members outer done)
        lettered rfl further refused
  | oneof group =>
      have head : ("oneof " ++ group.name ++ " \x7b").toList =
          Keyword.oneofWord.spelling.toList ++ ' ' :: (group.name.toList ++ [' ', '\x7b']) := by
        simp [Keyword.spelling]
      have deeper : ∀ c ∈ spaces ++ indent.toList, c = ' ' :=
        fun c inside => (List.mem_append.mp inside).elim (blank c) (indentBlank c)
      rw [memberLines, List.cons_append, indented_cons, indented_append, indented_deeper, indented_cons, indented_nil, head]
      simp only [List.append_assoc, List.cons_append, List.nil_append]
      refine reads_spaces _ _ _ _ _ blank ?_
      refine reads_word _ line outcome
        ⟨.blockName .oneof, .message owner ownerLine members :: outer, done⟩ .oneofWord ' ' _ (by decide) rfl rfl
        (fun _ _ => rfl) ?_
      refine reads_block_open outcome ⟨.messageBody, .message owner ownerLine members :: outer, done⟩ .oneof group.name line _
        lettered.1 ?_
      refine reads_oneof_fields layout message _ deeper outcome group.members lettered.2 .opensGroup rfl group.name
        line [] owner ownerLine members outer done (line + 1) _ (fun legible spot grouped => ?_) refused
      refine reads_spaces _ _ _ _ _ blank ?_
      refine reads_mark _ _ outcome ⟨.messageBody, .message owner ownerLine
        (memberDeclaration layout message line (.oneof group) :: members) :: outer, done⟩ .rightBrace _ ?_ ?_ ?_
      · cases spot <;> rfl
      · intro _ _
        rw [List.append_nil]
        cases spot with
        | inMessage => cases grouped
        | opensGroup => simp [Spot.point, Machine.step, Machine.atItem, memberDeclaration]
        | inGroup => simp [Spot.point, Machine.step, Machine.atItem, memberDeclaration]
      · apply reads_line_feed
        have later := further legible
        rw [memberHeight] at later
        rw [show line + 1 + group.members.length + 1 = line + (group.members.length + 2) by omega]
        exact later

theorem reads_members (indent : String) (indentBlank : ∀ c ∈ indent.toList, c = ' ') (members : List Member)
    (lettered : ∀ member ∈ members, LetteredMember layout message member) (owner : String) (ownerLine : Nat)
    (read : List Declaration) (outer : List Frame) (done : List Declaration) (line : Nat) (rest : List Char)
    (further : (∀ member ∈ members, LegibleMember layout message member) →
      Reads ⟨.messageBody, .message owner ownerLine
        ((memberDeclarations layout message line members).reverse ++ read) :: outer, done⟩
          (line + membersHeight members) rest outcome)
    (refused : ¬ (∀ member ∈ members, LegibleMember layout message member) → outcome.Faulty) :
    Reads ⟨.messageBody, .message owner ownerLine read :: outer, done⟩ line
      (indentedText spaces (members.flatMap (memberLines layout indent message)) ++ rest) outcome := by
  induction members generalizing read line with
  | nil => exact further fun _ absent => absurd absent List.not_mem_nil
  | cons member members ih =>
      rw [List.forall_mem_cons] at lettered further refused
      rw [List.flatMap_cons, indented_append, List.append_assoc]
      refine reads_member layout message spaces blank outcome indent indentBlank member lettered.1
        owner ownerLine read outer done line _ (fun legible => ?_) fun illegible => refused fun all => illegible all.1
      refine ih lettered.2 _ _ (fun legibleRest => ?_) fun illegible => refused fun all => illegible all.2
      have later := further ⟨legible, legibleRest⟩
      rw [memberDeclarations, List.reverse_cons, List.append_assoc, membersHeight] at later
      rw [Nat.add_assoc]
      exact later

omit layout message

theorem reads_values (values : List EnumValue) (named : ∀ value ∈ values, IsName value.name) (owner : String)
    (ownerLine : Nat) (read : List EnumValue) (outer : List Frame) (done : List Declaration) (line : Nat)
    (rest : List Char)
    (further : Reads ⟨.enumBody, .enum owner ownerLine (values.reverse ++ read) :: outer, done⟩ (line + values.length)
      rest outcome) :
    Reads ⟨.enumBody, .enum owner ownerLine read :: outer, done⟩ line
      (indentedText spaces (values.map valueLine) ++ rest) outcome := by
  induction values generalizing read line with
  | nil => exact further
  | cons value values ih =>
      have number : Decimal.readInt (Decimal.intNumeral value.id) = some value.id := Decimal.read_int_numeral value.id
      rw [List.map_cons, indented_cons, List.append_assoc, value_line_chars]
      simp only [List.append_assoc, List.cons_append, List.nil_append]
      refine reads_spaces _ _ _ _ _ blank ?_
      let frames := Frame.enum owner ownerLine read :: outer
      refine reads_any_name _ line outcome ⟨.valueEqual value.name, frames, done⟩ value.name ' ' _
        (named value List.mem_cons_self) (by decide) rfl (fun _ => rfl) ?_
      apply reads_space
      refine reads_mark _ line outcome ⟨.valueNumber value.name, frames, done⟩ .equal _ rfl (fun _ _ => rfl) ?_
      apply reads_space
      refine reads_signed _ line outcome ⟨.valueEnd value, frames, done⟩ value.id ';' _ (by decide) rfl ?_ ?_
      · intro place
        simp only [Machine.step, number]
        rfl
      · refine reads_mark _ line outcome ⟨.enumBody, .enum owner ownerLine (value :: read) :: outer, done⟩ .semicolon _ rfl
          (fun _ _ => rfl) ?_
        apply reads_line_feed
        refine ih (fun other member => named other (List.mem_cons_of_mem _ member)) _ _ ?_
        rw [List.reverse_cons, List.append_assoc, List.length_cons] at further
        rw [Nat.add_assoc, Nat.add_comm 1]
        exact further

end

end SchemaRecovery.Proto
