import SchemaRecovery.Proofs.Document.Types
import SchemaRecovery.Proofs.Reading.Run
import Mathlib.Data.List.TakeWhile

set_option autoImplicit false

namespace SchemaRecovery.Proto

open Schema (IsName isNameText)

structure FieldDeclaration.WellNamed (field : FieldDeclaration) : Prop where
  named : IsName field.name
  types : ∀ type ∈ field.types, Dotted type

inductive Declaration.WellNamed : Declaration → Prop where
  | field (single : FieldDeclaration) (spelled : single.WellNamed) : WellNamed (.field single)
  | oneof (name : String) (line : Nat) (members : List FieldDeclaration) (named : IsName name)
      (each : ∀ field ∈ members, field.WellNamed) : WellNamed (.oneof name line members)
  | enum (name : String) (line : Nat) (values : List Schema.EnumValue) (named : IsName name) :
      WellNamed (.enum name line values)
  | message (name : String) (line : Nat) (members : List Declaration) (named : IsName name)
      (each : ∀ inner ∈ members, WellNamed inner) : WellNamed (.message name line members)

def Frame.WellNamed : Frame → Prop
  | message name _ members => IsName name ∧ ∀ inner ∈ members, inner.WellNamed
  | oneof name _ members => IsName name ∧ ∀ field ∈ members, field.WellNamed
  | enum name _ _ => IsName name

def TypeUse.WellNamed : TypeUse → Prop
  | mapValue key => Dotted key
  | package | field _ | mapKey => True

def Point.WellNamed : Point → Prop
  | typePart use parts => use.WellNamed ∧ ∀ part ∈ parts, IsName part
  | typeNext use parts => use.WellNamed ∧ parts ≠ [] ∧ ∀ part ∈ parts, IsName part
  | blockOpen _ name _ => IsName name
  | mapName types => ∀ type ∈ types, Dotted type
  | fieldEqual head name _ | fieldNumber head name _ => IsName name ∧ ∀ type ∈ head.types, Dotted type
  | fieldOptions field | optionName field | optionEqual field | optionValue field | optionNext field | fieldEnd field =>
    field.WellNamed
  | _ => True

structure Machine.WellNamed (machine : Machine) : Prop where
  point : machine.point.WellNamed
  frames : ∀ frame ∈ machine.frames, frame.WellNamed
  done : ∀ declaration ∈ machine.done, declaration.WellNamed

def Token.WellNamed (token : Token) : Prop := token.terminal = .name → IsName token.text

theorem name_at_named (text found : List Char) (known : nameAt text = some found) : isNameText found := by
  cases text with
  | nil => cases known
  | cons c rest =>
      by_cases start : isNameStart c = true
      · rw [nameAt, if_pos start] at known
        obtain rfl := Option.some.inj known
        rw [isNameText, start, Bool.true_and, List.all_eq_true]
        exact fun _ member => List.mem_takeWhile_imp member
      · rw [nameAt, if_neg start] at known
        cases known

theorem if_accepted_terminal (accepted : List Terminal) (terminal : Terminal) (found : Option (List Char))
    (lexeme : Lexeme) (known : ifAccepted accepted terminal found = some lexeme) : lexeme.terminal = terminal := by
  by_cases expected : accepted.contains terminal = true
  · rw [ifAccepted, if_pos expected] at known
    obtain ⟨text, _, rfl⟩ := Option.map_eq_some_iff.mp known
    rfl
  · rw [ifAccepted, if_neg expected] at known
    cases known

theorem word_at_named (accepted : List Terminal) (text : List Char) (lexeme : Lexeme)
    (known : wordAt accepted text = some lexeme) (name : lexeme.terminal = .name) : isNameText lexeme.text := by
  by_cases names : accepted.contains .name = true
  · rw [wordAt, if_pos names] at known
    obtain ⟨found, here, rfl⟩ := Option.map_eq_some_iff.mp known
    rw [classify_name_text]
    exact name_at_named text found here
  · rw [wordAt, if_neg names] at known
    obtain ⟨word, _, rfl⟩ := Option.map_eq_some_iff.mp known
    cases name

theorem lexeme_at_named (accepted : List Terminal) (text : List Char) (lexeme : Lexeme)
    (known : lexemeAt accepted text = some lexeme) (name : lexeme.terminal = .name) : isNameText lexeme.text := by
  simp only [lexemeAt, Option.or_eq_some_iff] at known
  rcases known with quoted | ⟨_, signed | ⟨_, number | ⟨_, word | ⟨_, mark⟩⟩⟩⟩
  · cases (if_accepted_terminal _ _ _ _ quoted).symm.trans name
  · cases (if_accepted_terminal _ _ _ _ signed).symm.trans name
  · cases (if_accepted_terminal _ _ _ _ number).symm.trans name
  · exact word_at_named accepted text lexeme word name
  · cases text with
    | nil => cases mark
    | cons c rest =>
        obtain ⟨sign, _, rfl⟩ := Option.map_eq_some_iff.mp mark
        cases name

theorem next_token_named (accepted : List Terminal) (source rest : Source) (token : Token)
    (known : nextToken accepted source = .ok (some (token, rest))) : token.WellNamed := by
  intro name
  simp only [nextToken] at known
  split at known
  · cases known
  · split at known
    · rename_i lexeme found
      obtain ⟨rfl, _⟩ := Prod.mk.inj (Option.some.inj (Except.ok.inj known))
      simpa [IsName, Lexeme.token] using lexeme_at_named _ _ lexeme found name
    · split at known <;> cases known

theorem parts_dotted (parts : Parts) (some : parts ≠ []) (named : ∀ part ∈ parts, IsName part) : Dotted parts.text :=
  ⟨parts.reverse, by simpa using some, fun part member => named part (List.mem_reverse.mp member), rfl⟩

section
variable (machine next : Machine) (valid : machine.WellNamed)
include valid

theorem goto_named (point : Point) (spelled : point.WellNamed) : Machine.WellNamed { machine with point := point } :=
  ⟨spelled, valid.frames, valid.done⟩

theorem close_named (frames : List Frame) (declaration : Declaration) (outer : ∀ frame ∈ frames, frame.WellNamed)
    (spelled : declaration.WellNamed) (closed : machine.close frames declaration = some next) : next.WellNamed := by
  -- A block that ends is put into the one around it, or among those at the top.
  match frames with
  | [] =>
      obtain rfl := Option.some.inj closed
      exact ⟨trivial, fun _ absent => absurd absent List.not_mem_nil, List.forall_mem_cons.mpr ⟨spelled, valid.done⟩⟩
  | .message name line members :: frames =>
      obtain rfl := Option.some.inj closed
      obtain ⟨⟨named, each⟩, further⟩ := List.forall_mem_cons.mp outer
      exact ⟨trivial, List.forall_mem_cons.mpr ⟨⟨named, List.forall_mem_cons.mpr ⟨spelled, each⟩⟩, further⟩, valid.done⟩
  | .oneof .. :: _ => cases closed
  | .enum .. :: _ => cases closed

theorem add_field_named (field : FieldDeclaration) (spelled : field.WellNamed) (added : machine.addField field = some next) :
    next.WellNamed := by
  obtain ⟨point, frames, done⟩ := machine
  match frames with
  | [] => cases added
  | .message name line members :: frames =>
      obtain rfl := Option.some.inj added
      obtain ⟨⟨named, each⟩, further⟩ := List.forall_mem_cons.mp valid.frames
      have extended := List.forall_mem_cons.mpr ⟨Declaration.WellNamed.field field spelled, each⟩
      exact ⟨trivial, List.forall_mem_cons.mpr ⟨⟨named, extended⟩, further⟩, valid.done⟩
  | .oneof name line members :: frames =>
      obtain rfl := Option.some.inj added
      obtain ⟨⟨named, each⟩, further⟩ := List.forall_mem_cons.mp valid.frames
      have extended := List.forall_mem_cons.mpr ⟨spelled, each⟩
      exact ⟨trivial, List.forall_mem_cons.mpr ⟨⟨named, extended⟩, further⟩, valid.done⟩
  | .enum .. :: _ => cases added

theorem add_value_named (value : Schema.EnumValue) (added : machine.addValue value = some next) : next.WellNamed := by
  obtain ⟨point, frames, done⟩ := machine
  match frames with
  | [] => cases added
  | .message .. :: _ => cases added
  | .oneof .. :: _ => cases added
  | .enum name line values :: frames =>
      obtain rfl := Option.some.inj added
      obtain ⟨named, further⟩ := List.forall_mem_cons.mp valid.frames
      exact ⟨trivial, List.forall_mem_cons.mpr ⟨named, further⟩, valid.done⟩

theorem open_block_named (name : String) (line : Nat) (kind : BlockKind) (named : IsName name) :
    (machine.openBlock name line kind).WellNamed := by
  have none {α : Type} (holds : α → Prop) : ∀ item ∈ ([] : List α), holds item := fun _ absent =>
    absurd absent List.not_mem_nil
  cases kind with
  | message => exact ⟨trivial, List.forall_mem_cons.mpr ⟨⟨named, none _⟩, valid.frames⟩, valid.done⟩
  | oneof => exact ⟨trivial, List.forall_mem_cons.mpr ⟨⟨named, none _⟩, valid.frames⟩, valid.done⟩
  | enum => exact ⟨trivial, List.forall_mem_cons.mpr ⟨named, valid.frames⟩, valid.done⟩

variable (token : Token) (spelled : token.WellNamed)
include spelled

theorem after_type_named (use : TypeUse) (parts : Parts) (used : use.WellNamed) (some : parts ≠ [])
    (named : ∀ part ∈ parts, IsName part) (taken : machine.afterType use parts token = Option.some next) :
    next.WellNamed := by
  have dotted := parts_dotted parts some named
  unfold Machine.afterType at taken
  split at taken
  · obtain rfl := Option.some.inj taken
    exact goto_named machine valid _ trivial
  · rename_i label name
    obtain rfl := Option.some.inj taken
    exact goto_named machine valid _ ⟨spelled name, List.forall_mem_singleton.mpr dotted⟩
  · obtain rfl := Option.some.inj taken
    exact goto_named machine valid _ ⟨dotted, fun _ absent => absurd absent List.not_mem_nil⟩
  · obtain rfl := Option.some.inj taken
    exact goto_named machine valid _ (List.forall_mem_cons.mpr ⟨used, List.forall_mem_singleton.mpr dotted⟩)
  · cases taken

theorem at_item_named (taken : machine.atItem token = some next) : next.WellNamed := by
  have outer := valid.frames
  unfold Machine.atItem at taken
  split at taken
  case h_5 name line members frames opened _ =>
    rw [opened] at outer
    obtain ⟨⟨named, each⟩, further⟩ := List.forall_mem_cons.mp outer
    refine close_named machine next valid frames _ further (.message name line _ named fun inner member => ?_) taken
    exact each inner (List.mem_reverse.mp member)
  case h_10 name line members around aroundLine others frames opened _ =>
    rw [opened] at outer
    obtain ⟨⟨named, each⟩, outer⟩ := List.forall_mem_cons.mp outer
    obtain ⟨⟨aroundNamed, before⟩, further⟩ := List.forall_mem_cons.mp outer
    obtain rfl := Option.some.inj taken
    have group := Declaration.WellNamed.oneof name line members.reverse named fun field member =>
      each field (List.mem_reverse.mp member)
    exact ⟨trivial, List.forall_mem_cons.mpr ⟨⟨aroundNamed, List.forall_mem_cons.mpr ⟨group, before⟩⟩, further⟩, valid.done⟩
  case h_11 name line values frames opened _ =>
    rw [opened] at outer
    obtain ⟨named, further⟩ := List.forall_mem_cons.mp outer
    exact close_named machine next valid frames _ further (.enum name line _ named) taken
  case h_21 => cases taken
  -- Everything else begins a statement or a block, of which a name at most has been read.
  all_goals
    obtain rfl := Option.some.inj taken
    refine goto_named machine valid _ ?_
    first
      | exact trivial
      | exact ⟨trivial, fun _ absent => absurd absent List.not_mem_nil⟩
      | exact ⟨trivial, List.cons_ne_nil _ _, List.forall_mem_singleton.mpr (spelled ‹_›)⟩

theorem step_named (taken : machine.step token = some next) : next.WellNamed := by
  have here := valid.point
  unfold Machine.step at taken
  split at taken
  case h_1 | h_2 | h_3 | h_4 | h_5 | h_6 => exact at_item_named machine next valid token spelled taken
  case h_10 use parts point name =>
    rw [point] at here
    obtain rfl := Option.some.inj taken
    exact goto_named machine valid _ ⟨here.1, List.cons_ne_nil _ _, List.forall_mem_cons.mpr ⟨spelled name, here.2⟩⟩
  case h_11 use parts point _ =>
    rw [point] at here
    obtain rfl := Option.some.inj taken
    exact goto_named machine valid _ ⟨here.1, here.2.2⟩
  case h_12 use parts point _ =>
    rw [point] at here
    exact after_type_named machine next valid token spelled use parts here.1 here.2.1 here.2.2 taken
  case h_13 kind _ name =>
    obtain rfl := Option.some.inj taken
    exact goto_named machine valid _ (spelled name)
  case h_14 kind name line point _ =>
    rw [point] at here
    obtain rfl := Option.some.inj taken
    exact open_block_named machine valid name line kind here
  case h_15 =>
    obtain rfl := Option.some.inj taken
    exact goto_named machine valid _ ⟨trivial, fun _ absent => absurd absent List.not_mem_nil⟩
  case h_16 types point name =>
    rw [point] at here
    obtain rfl := Option.some.inj taken
    exact goto_named machine valid _ ⟨spelled name, here⟩
  case h_18 head name line point _ =>
    rw [point] at here
    obtain rfl := Option.some.inj taken
    exact goto_named machine valid _ ⟨here.1, here.2⟩
  case h_20 field point _ | h_27 field point _ =>
    rw [point] at here
    exact add_field_named machine next valid field here taken
  case h_30 value _ _ => exact add_value_named machine next valid value taken
  case h_31 => cases taken
  -- The other tokens leave what has been read as it is.
  all_goals
    rename_i point _
    rw [point] at here
    obtain rfl := Option.some.inj taken
    exact goto_named machine valid _ here

end

theorem run_named (machine : Machine) (last : Place) (source : Source) (declarations : List Declaration)
    (valid : machine.WellNamed) (ends : machine.run last source = .ok declarations) :
    ∀ declaration ∈ declarations, declaration.WellNamed := by
  rw [run_eq] at ends
  cases found : nextToken machine.point.accepted source with
  | error fault =>
      rw [found] at ends
      cases ends
  | ok token =>
      rw [found] at ends
      cases token with
      | none =>
          simp only at ends
          split at ends
          · obtain rfl := Except.ok.inj ends
            exact fun declaration member => valid.done declaration (List.mem_reverse.mp member)
          · cases ends
      | some pair =>
          obtain ⟨token, rest⟩ := pair
          have shorter := next_token_shorter found
          simp only at ends
          cases taken : machine.step token with
          | none =>
              rw [taken] at ends
              cases ends
          | some next =>
              rw [taken] at ends
              have further := step_named machine next valid token (next_token_named _ source rest token found) taken
              exact run_named next token.place rest declarations further ends
termination_by source.text.length

theorem read_named (text : String) (declarations : List Declaration) (known : read text = .ok declarations) :
    ∀ declaration ∈ declarations, declaration.WellNamed := by
  -- Whatever text is read, all names in what comes out are names.
  refine run_named Machine.start Place.start (Source.ofText text) declarations ⟨trivial, ?_, ?_⟩ known
  · exact fun _ absent => absurd absent List.not_mem_nil
  · exact fun _ absent => absurd absent List.not_mem_nil

end SchemaRecovery.Proto
