import SchemaRecovery.Proofs.Reading.Member

set_option autoImplicit false

namespace SchemaRecovery.Proto

open Schema (IsName Member)

inductive Enclosure where
  | top
  | message (name : String) (line : Nat) (outer : List Frame) (done : List Declaration)

def Enclosure.frames : Enclosure → List Declaration → List Frame
  | .top, _ => []
  | .message name line outer _, read => .message name line read :: outer

def Enclosure.done : Enclosure → List Declaration → List Declaration
  | .top, read => read
  | .message _ _ _ done, _ => done

def Enclosure.machine (around : Enclosure) (point : Point) (read : List Declaration) : Machine :=
  ⟨point, around.frames read, around.done read⟩

def Enclosure.ItemPoint : Enclosure → Point → Prop
  | .top, point => point = .top ∨ point = .blockClosed
  | .message .., point => point = .messageBody ∨ point = .blockClosed

structure PrintableBlock (layout : Layout) (block : Block) : Prop where
  shown : IsName block.shown
  line : '\n' ∉ block.definition.name.toList
  members : ∀ member ∈ block.definition.memberList, PrintableMember layout block.definition.name member
  values : ∀ value ∈ block.definition.values, IsName value.name

structure LetteredBlock (layout : Layout) (block : Block) : Prop where
  shown : IsName block.shown
  line : '\n' ∉ block.definition.name.toList
  members : ∀ member ∈ block.definition.memberList, LetteredMember layout block.definition.name member
  values : ∀ value ∈ block.definition.values, IsName value.name

def LegibleBlock (layout : Layout) (block : Block) : Prop :=
  ∀ member ∈ block.definition.memberList, LegibleMember layout block.definition.name member

theorem printable_block (layout : Layout) (block : Block) (printable : PrintableBlock layout block) :
    LetteredBlock layout block ∧ LegibleBlock layout block where
  left := {
    shown := printable.shown
    line := printable.line
    members := fun member inside => (printable_member layout _ member (printable.members member inside)).1
    values := printable.values }
  right member inside := (printable_member layout _ member (printable.members member inside)).2

theorem legible_unless_message (layout : Layout) (block : Block) (scope : List String) (other : block.form ≠ .message) :
    ∀ site ∈ block.sites scope, LegibleBlock layout site.block := by
  cases block with
  | node definition shown nested =>
      have alone : nested = [] := nested_nil definition nested other
      have noMessage : definition.isMessage = false :=
        Bool.eq_false_iff.mpr fun message => other ((form_message definition nested).mpr (.inl message))
      have noMembers : definition.members = none := by simpa [Schema.Definition.isMessage] using noMessage
      subst alone
      intro site member inner inside
      rw [Block.sites, Block.sitesOf, List.mem_singleton] at member
      simp [member, Block.definition, Schema.Definition.memberList, noMembers] at inside

theorem lexeme_at_top (word : Keyword) (rest : List Char) (known : topTerminals.contains (.keyword word)) :
    lexemeAt topTerminals (word.spelling.toList ++ rest) = some ⟨.keyword word, word.spelling.toList⟩ := by
  revert known
  cases word
  all_goals intro known; first | rfl | cases known

section
variable (line : Nat) (outcome : Outcome)

theorem reads_top_word (read : List Declaration) (next : Machine) (word : Keyword) (rest : List Char)
    (known : topTerminals.contains (.keyword word))
    (taken : ∀ text place, Machine.step ⟨.top, [], read⟩ ⟨.keyword word, text, place⟩ = some next)
    (further : Reads next line rest outcome) :
    Reads ⟨.top, [], read⟩ line (word.spelling.toList ++ rest) outcome :=
  reads_token _ line outcome next ⟨.keyword word, word.spelling.toList⟩ rest (lexeme_at_top word rest known)
    (name_solid _ (spelling_named word)) (fun _ => taken _ _) further

theorem reads_item_word (around : Enclosure) (point : Point) (item : around.ItemPoint point) (read : List Declaration)
    (word : Keyword) (kind : BlockKind)
    (begins : word = .messageWord ∧ kind = .message ∨ word = .enumWord ∧ kind = .enum) (rest : List Char)
    (further : Reads (around.machine (.blockName kind) read) line (' ' :: rest) outcome) :
    Reads (around.machine point read) line (word.spelling.toList ++ ' ' :: rest) outcome := by
  cases around with
  | top =>
      rcases item with rfl | rfl
      · refine reads_top_word line outcome read _ word _ ?_ ?_ further
        · rcases begins with ⟨rfl, rfl⟩ | ⟨rfl, rfl⟩ <;> rfl
        · rcases begins with ⟨rfl, rfl⟩ | ⟨rfl, rfl⟩ <;> exact fun _ _ => rfl
      · refine reads_word _ line outcome _ word ' ' rest (by decide) rfl ?_ ?_ further
        · rcases begins with ⟨rfl, rfl⟩ | ⟨rfl, rfl⟩ <;> rfl
        · rcases begins with ⟨rfl, rfl⟩ | ⟨rfl, rfl⟩ <;> exact fun _ _ => rfl
  | message name nameLine outer done =>
      refine reads_word _ line outcome _ word ' ' rest (by decide) ?_ ?_ ?_ further
      · rcases item with rfl | rfl <;> rfl
      · rcases item with rfl | rfl <;> rcases begins with ⟨rfl, rfl⟩ | ⟨rfl, rfl⟩ <;> rfl
      · rcases item with rfl | rfl <;> rcases begins with ⟨rfl, rfl⟩ | ⟨rfl, rfl⟩ <;> exact fun _ _ => rfl

theorem reads_message_end (around : Enclosure) (read members : List Declaration) (name : String) (nameLine : Nat)
    (point : Point) (item : point = .messageBody ∨ point = .blockClosed) (rest : List Char)
    (further : Reads (around.machine .blockClosed (.message name nameLine members.reverse :: read)) (line + 1) rest outcome) :
    Reads ⟨point, .message name nameLine members :: around.frames read, around.done read⟩ line ('\x7d' :: '\n' :: rest)
      outcome := by
  refine reads_mark _ line outcome (around.machine .blockClosed (.message name nameLine members.reverse :: read))
    .rightBrace _ ?_ ?_ (reads_line_feed _ line outcome rest further)
  · rcases item with rfl | rfl <;> rfl
  · rcases item with rfl | rfl <;> cases around <;> exact fun _ _ => rfl

theorem reads_enum_end (around : Enclosure) (read : List Declaration) (values : List Schema.EnumValue) (name : String)
    (nameLine : Nat) (rest : List Char)
    (further : Reads (around.machine .blockClosed (.enum name nameLine values.reverse :: read)) (line + 1) rest outcome) :
    Reads ⟨.enumBody, .enum name nameLine values :: around.frames read, around.done read⟩ line ('\x7d' :: '\n' :: rest)
      outcome := by
  refine reads_mark _ line outcome (around.machine .blockClosed (.enum name nameLine values.reverse :: read))
    .rightBrace _ rfl ?_ (reads_line_feed _ line outcome rest further)
  cases around <;> exact fun _ _ => rfl

end

theorem message_line_chars (shown : String) : ("message " ++ shown ++ " \x7b").toList =
    Keyword.messageWord.spelling.toList ++ ' ' :: (shown.toList ++ [' ', '\x7b']) := by
  simp [Keyword.spelling]

theorem enum_line_chars (shown : String) : ("enum " ++ shown ++ " \x7b").toList =
    Keyword.enumWord.spelling.toList ++ ' ' :: (shown.toList ++ [' ', '\x7b']) := by
  simp [Keyword.spelling]

section
variable (layout : Layout) (indent : String) (outcome : Outcome)

theorem reads_enum (indentBlank : ∀ c ∈ indent.toList, c = ' ') (spaces : List Char)
    (blank : ∀ c ∈ spaces, c = ' ') (shown : String) (values : List Schema.EnumValue) (isName : IsName shown)
    (named : ∀ value ∈ values, IsName value.name) (around : Enclosure) (point : Point)
    (item : around.ItemPoint point) (read : List Declaration) (line : Nat)
    (rest : List Char)
    (further : Reads (around.machine .blockClosed (.enum shown line values :: read)) (line + (values.length + 2)) rest
      outcome) :
    Reads (around.machine point read) line (indentedText spaces
      (("enum " ++ shown ++ " \x7b") :: indentLines indent (values.map valueLine) ++ ["\x7d"]) ++ rest) outcome := by
  have deeper : ∀ c ∈ spaces ++ indent.toList, c = ' ' :=
    fun c inside => (List.mem_append.mp inside).elim (blank c) (indentBlank c)
  rw [List.cons_append, indented_cons, indented_append, indented_deeper, indented_cons, indented_nil, enum_line_chars]
  simp only [List.append_assoc, List.cons_append, List.nil_append]
  refine reads_spaces _ _ _ _ _ blank ?_
  refine reads_item_word line outcome around point item read .enumWord .enum (.inr ⟨rfl, rfl⟩) _ ?_
  refine reads_block_open outcome (around.machine point read) .enum shown line _ isName ?_
  refine reads_values _ deeper outcome values named shown line [] (around.frames read) (around.done read) (line + 1) _ ?_
  refine reads_spaces _ _ _ _ _ blank ?_
  refine reads_enum_end _ outcome around read (values.reverse ++ []) shown line rest ?_
  rw [List.append_nil, List.reverse_reverse]
  rw [show line + 1 + values.length + 1 = line + (values.length + 2) by omega]
  exact further

mutual
theorem reads_block (indentBlank : ∀ c ∈ indent.toList, c = ' ') (block : Block) (scope : List String)
    (lettered : ∀ site ∈ block.sites scope, LetteredBlock layout site.block) (spaces : List Char)
    (blank : ∀ c ∈ spaces, c = ' ') (around : Enclosure) (point : Point) (item : around.ItemPoint point)
    (read : List Declaration) (line : Nat) (rest : List Char)
    (further : (∀ site ∈ block.sites scope, LegibleBlock layout site.block) → ∀ point, around.ItemPoint point →
      Reads (around.machine point ((block.declarations layout line).reverse ++ read)) (line + block.height) rest outcome)
    (refused : ¬ (∀ site ∈ block.sites scope, LegibleBlock layout site.block) → outcome.Faulty) :
    Reads (around.machine point read) line (indentedText spaces (block.lines layout indent) ++ rest) outcome := by
  cases block with
  | node definition shown nested =>
      have here := lettered _ (block_site scope (.node definition shown nested))
      have deeper : ∀ c ∈ spaces ++ indent.toList, c = ' ' :=
        fun c inside => (List.mem_append.mp inside).elim (blank c) (indentBlank c)
      have legible := legible_unless_message layout (.node definition shown nested) scope
      rw [Block.lines]
      rw [Block.declarations, Block.height] at further
      cases form : formOf definition nested with
      | message =>
          rw [Block.sites, List.forall_mem_cons] at lettered further refused
          rw [form] at further
          simp only at further ⊢
          rw [List.cons_append, indented_cons, indented_append, indented_deeper, indented_append, indented_cons,
            indented_nil, message_line_chars]
          simp only [List.append_assoc, List.cons_append, List.nil_append]
          refine reads_spaces _ _ _ _ _ blank ?_
          refine reads_item_word line outcome around point item read .messageWord .message (.inl ⟨rfl, rfl⟩) _ ?_
          refine reads_block_open outcome (around.machine point read) .message shown line _ here.shown ?_
          refine reads_members layout definition.name _ deeper outcome indent indentBlank definition.memberList
            here.members shown line [] (around.frames read) (around.done read) (line + 1) _ (fun legibleMembers => ?_)
            fun illegible => refused fun all => illegible all.1
          -- The blocks inside are read with the message as their enclosure, and its end hands the
          -- enclosure back.
          refine reads_blocks indentBlank nested (scope ++ [shown]) lettered.2 _ deeper
            (.message shown line (around.frames read) (around.done read)) .messageBody (.inl rfl) _ _ _
            (fun legibleNested => ?_) fun illegible => refused fun all => illegible all.2
          intro point item
          refine reads_spaces _ _ _ _ _ blank ?_
          refine reads_message_end _ outcome around read _ shown line point item rest ?_
          have later := further ⟨legibleMembers, legibleNested⟩ .blockClosed (by cases around <;> exact .inr rfl)
          rw [List.append_nil, List.reverse_append, List.reverse_reverse, List.reverse_reverse]
          rw [show line + 1 + membersHeight definition.memberList + Block.heightOf nested + 1 =
            line + (membersHeight definition.memberList + Block.heightOf nested + 2) by omega]
          exact later
      | enum =>
          rw [form] at further
          have later := further (legible (by simp [Block.form, Block.definition, Block.nested, form]))
          exact reads_enum indent outcome indentBlank spaces blank shown definition.values here.shown here.values around
            point item read line rest (later .blockClosed (by cases around <;> exact .inr rfl))
      | unknown =>
          rw [form] at further
          have later := further (legible (by simp [Block.form, Block.definition, Block.nested, form])) point item
          have comment : ("// Unknown entity " ++ definition.name).toList =
              '/' :: '/' :: (" Unknown entity ".toList ++ definition.name.toList) := by simp
          have whole : '\n' ∉ " Unknown entity ".toList ++ definition.name.toList := by
            rw [List.mem_append, not_or]
            exact ⟨by decide, here.line⟩
          rw [indented_cons, indented_nil, comment]
          simp only [List.append_assoc, List.cons_append, List.nil_append]
          refine reads_spaces _ _ _ _ _ blank ?_
          simpa using reads_comment _ line outcome _ rest whole later
theorem reads_blocks (indentBlank : ∀ c ∈ indent.toList, c = ' ') (blocks : List Block) (scope : List String)
    (lettered : ∀ site ∈ Block.sitesOf scope blocks, LetteredBlock layout site.block) (spaces : List Char)
    (blank : ∀ c ∈ spaces, c = ' ') (around : Enclosure) (point : Point) (item : around.ItemPoint point)
    (read : List Declaration) (line : Nat) (rest : List Char)
    (further : (∀ site ∈ Block.sitesOf scope blocks, LegibleBlock layout site.block) → ∀ point, around.ItemPoint point →
      Reads (around.machine point ((Block.declarationsOf layout line blocks).reverse ++ read))
        (line + Block.heightOf blocks) rest outcome)
    (refused : ¬ (∀ site ∈ Block.sitesOf scope blocks, LegibleBlock layout site.block) → outcome.Faulty) :
    Reads (around.machine point read) line (indentedText spaces (Block.linesOf layout indent blocks) ++ rest) outcome := by
  cases blocks with
  | nil => exact further (fun _ absent => absurd absent List.not_mem_nil) point item
  | cons first later =>
      rw [Block.sitesOf, List.forall_mem_append] at lettered further refused
      rw [Block.linesOf, indented_append, List.append_assoc]
      refine reads_block indentBlank first scope lettered.1 spaces blank around point item read line _
        (fun legible point item => ?_) fun illegible => refused fun all => illegible all.1
      refine reads_blocks indentBlank later scope lettered.2 spaces blank around point item _ _ rest
        (fun legibleLater point item => ?_) fun illegible => refused fun all => illegible all.2
      have ended := further ⟨legible, legibleLater⟩ point item
      rw [Block.declarationsOf, List.reverse_append, List.append_assoc, Block.heightOf] at ended
      rw [Nat.add_assoc]
      exact ended
end

end

end SchemaRecovery.Proto
