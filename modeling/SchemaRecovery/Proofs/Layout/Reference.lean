import SchemaRecovery.Proofs.Document.Types
import Mathlib.Data.List.Infix

set_option autoImplicit false

namespace SchemaRecovery.Proto

open Schema (Catalog Definition Field Segmented Textual)

def resolvedFrom (declared scope : List String) (type : String) : Nat → Option String
  | 0 => if fullName [] type ∈ declared then some (fullName [] type) else none
  | depth + 1 =>
    if fullName (scope.take (depth + 1)) type ∈ declared then some (fullName (scope.take (depth + 1)) type)
    else resolvedFrom declared scope type depth

def resolved (declared scope : List String) (type : String) : Option String :=
  resolvedFrom declared scope type scope.length

def Denotes (printed : List Site) (scope : List String) (type : String) (target : Site) : Prop :=
  ∃ found, resolved (printed.map Site.fullName) scope type = some found ∧
    ∀ site ∈ printed, site.fullName = found ↔ site = target

structure Unshadowed (layout : Layout) (message target : Site) : Prop where
  -- No other block has the name of the target, and none in the message or around it comes
  -- before.
  alone : ∀ site ∈ layout.printed, site.fullName = target.fullName → site = target
  first : layout.parent? target.block.name = some message.block.name ∨
    ∀ site ∈ layout.printed, ∀ scope, scope ≠ [] → scope <+: message.path →
      site.fullName ≠ fullName scope target.fullName

theorem resolved_here (declared scope : List String) (type : String) (named : fullName scope type ∈ declared) :
    resolved declared scope type = some (fullName scope type) := by
  unfold resolved
  cases size : scope.length with
  | zero => rw [List.length_eq_zero_iff.mp size] at named ⊢; exact if_pos named
  | succ depth =>
      have whole : scope.take (depth + 1) = scope := List.take_of_length_le (by omega)
      rw [resolvedFrom, whole, if_pos named]

theorem resolved_outermost (declared scope : List String) (type : String) (named : type ∈ declared)
    (depth : Nat) (inner : ∀ near, 0 < near → near ≤ depth → fullName (scope.take near) type ∉ declared) :
    resolvedFrom declared scope type depth = some type := by
  induction depth with
  | zero => simpa [resolvedFrom, fullName] using named
  | succ depth ih =>
      rw [resolvedFrom, if_neg (inner (depth + 1) (Nat.succ_pos _) (Nat.le_refl _))]
      exact ih fun near positive bound => inner near positive (Nat.le_succ_of_le bound)

theorem resolved_inner (declared scope : List String) (type : String) (depth near : Nat) (positive : 0 < near)
    (bound : near ≤ depth) (named : fullName (scope.take near) type ∈ declared) :
    ∃ further, 0 < further ∧ further ≤ depth ∧
      resolvedFrom declared scope type depth = some (fullName (scope.take further) type) := by
  induction depth with
  | zero => omega
  | succ depth ih =>
      by_cases here : fullName (scope.take (depth + 1)) type ∈ declared
      · exact ⟨depth + 1, Nat.succ_pos _, Nat.le_refl _, by rw [resolvedFrom, if_pos here]⟩
      · have earlier : near ≤ depth := by
          rcases Nat.lt_or_eq_of_le bound with less | same
          · omega
          · exact absurd (same ▸ named) here
        obtain ⟨further, positive, within, found⟩ := ih earlier
        exact ⟨further, positive, Nat.le_succ_of_le within, by rw [resolvedFrom, if_neg here, found]⟩

theorem full_name_longer (scope : List String) (name : String) (nested : scope ≠ []) : fullName scope name ≠ name := by
  intro same
  have lengths := congrArg String.length same
  rw [fullName, String.intercalate_append_of_ne_nil nested (List.cons_ne_nil _ _), String.intercalate_singleton] at lengths
  simp only [String.length_append] at lengths
  have one : ".".length = 1 := rfl
  omega

theorem resolved_full_name (declared scope : List String) (type : String) (named : type ∈ declared) :
    (resolved declared scope type).isSome ∧ (resolved declared scope type = some type ↔
      ∀ near, near ≠ [] → near <+: scope → fullName near type ∉ declared) := by
  by_cases captured : ∃ near, near ≠ [] ∧ near <+: scope ∧ fullName near type ∈ declared
  · obtain ⟨near, nested, before, first⟩ := captured
    have cut := List.prefix_iff_eq_take.mp before
    obtain ⟨further, positive, within, found⟩ := resolved_inner declared scope type scope.length near.length
      (List.length_pos_iff.mpr nested) before.length_le (cut ▸ first)
    have inside : scope.take further ≠ [] := by
      intro empty
      have lengths := congrArg List.length empty
      rw [List.length_take, List.length_nil] at lengths
      omega
    rw [resolved, found]
    refine ⟨rfl, fun same => ?_, fun free => absurd first (free near nested before)⟩
    exact absurd (Option.some.inj same) (full_name_longer _ type inside)
  · have free : ∀ near, near ≠ [] → near <+: scope → fullName near type ∉ declared := by
      intro near nested before first
      exact captured ⟨near, nested, before, first⟩
    have found : resolved declared scope type = some type := by
      refine resolved_outermost declared scope type named scope.length fun near positive bound => ?_
      refine free _ (fun empty => ?_) (List.take_prefix near scope)
      have lengths := congrArg List.length empty
      rw [List.length_take, List.length_nil] at lengths
      omega
    rw [found]
    exact ⟨rfl, fun _ => free, fun _ => rfl⟩

theorem printed_types_reference (layout : Layout) (message : String) (field : Field) (pair : String × String)
    (member : pair ∈ (typeNames field).zip (printedTypes layout message field)) :
    pair.2 = layout.reference pair.1 message := by
  rw [printed_types_eq] at member
  cases known : field.type with
  | none => simp [typeNames, known] at member
  | some type =>
      rw [known, Option.isNone_some, if_neg Bool.false_ne_true, ← List.map_prod_left_eq_zip, List.mem_map] at member
      obtain ⟨name, _, rfl⟩ := member
      rfl

section
variable (catalog : Catalog) (rooted : Rooted catalog)
include rooted

theorem printed_site_placed (site : Site) (member : site ∈ (Layout.ofCatalog catalog).printed) :
    ∃ placement ∈ (Layout.ofCatalog catalog).placements,
      site.block = blockOf (Layout.ofCatalog catalog).placements placement ∧
        PathTo (Layout.ofCatalog catalog).placements placement.name site.path := by
  have arranged := layout_arranged catalog rooted
  refine blocks_sites_placed _ arranged [] _ "" (.inl ⟨rfl, rfl⟩) ?_ site (List.mem_of_mem_filter member)
  exact fun block inside => (mem_forest _ arranged "" block).mp inside

omit rooted in
theorem parent_of_placement (placement : Placement) (member : placement ∈ (Layout.ofCatalog catalog).placements) :
    (Layout.ofCatalog catalog).parent? placement.name = some placement.parent := by
  rw [placements_eq] at member
  obtain ⟨name, placed, rfl⟩ := List.mem_map.mp member
  rw [place_name_name]
  exact (parent_some_iff catalog name _).mpr ⟨placed, rfl⟩

theorem reference_eq (message target : Site) (targetPrinted : target ∈ (Layout.ofCatalog catalog).printed)
    (messagePrinted : message ∈ (Layout.ofCatalog catalog).printed) :
    if (Layout.ofCatalog catalog).parent? target.block.name = some message.block.name then
      fullName message.path ((Layout.ofCatalog catalog).reference target.block.name message.block.name) = target.fullName
    else (Layout.ofCatalog catalog).reference target.block.name message.block.name = target.fullName := by
  have arranged := layout_arranged catalog rooted
  obtain ⟨placement, member, same, way⟩ := printed_site_placed catalog rooted target targetPrinted
  obtain ⟨outer, outerMember, outerSame, outerWay⟩ := printed_site_placed catalog rooted message messagePrinted
  have entry := parent_of_placement catalog placement member
  have outerNamed := arranged.named outer outerMember
  rw [same, outerSame, block_of_name, block_of_name, entry, Layout.reference, entry]
  simp only [Option.some.injEq]
  rcases path_to_cases _ arranged placement member target.path way with ⟨outermost, only⟩ | ⟨path, around, longer⟩
  · have elsewhere : placement.parent ≠ outer.name := fun within => outerNamed (within ▸ outermost)
    rw [if_neg elsewhere, if_pos (.inl outermost), Site.fullName, only, String.intercalate_singleton]
  · have inside := path_to_ne_nil _ _ _ around
    by_cases within : placement.parent = outer.name
    · have scope : message.path = path := path_to_unique _ arranged _ _ _ (within ▸ outerWay) around
      rw [if_pos within, if_pos (.inr within), Site.fullName, longer, scope, fullName]
    · have nested : placement.parent ≠ "" := by
        obtain ⟨enclosing, present, named⟩ := path_to_mem _ _ _ around
        exact named ▸ arranged.named enclosing present
      rw [if_neg within, if_neg (by simp [within, nested]), Layout.printedPath, printed_path_eq _ arranged _ _ around,
        Site.fullName, longer, String.intercalate_append_of_ne_nil inside (List.cons_ne_nil _ _),
        String.intercalate_singleton]

theorem reference_denotes_iff_unshadowed (message target : Site)
    (messagePrinted : message ∈ (Layout.ofCatalog catalog).printed)
    (targetPrinted : target ∈ (Layout.ofCatalog catalog).printed)
    (field : Field) (pair : String × String)
    (type : pair ∈ (typeNames field).zip (printedTypes (Layout.ofCatalog catalog) message.block.name field))
    (meant : pair.1 = target.block.name) :
    (resolved ((Layout.ofCatalog catalog).printed.map Site.fullName) message.path pair.2).isSome ∧
      (Denotes (Layout.ofCatalog catalog).printed message.path pair.2 target ↔
        Unshadowed (Layout.ofCatalog catalog) message target) := by
  have declared := List.mem_map_of_mem (f := Site.fullName) targetPrinted
  have reference := reference_eq catalog rooted message target targetPrinted messagePrinted
  rw [printed_types_reference _ _ _ _ type, meant]
  -- Inside its own message a short name is found at once; a full name is looked for from there
  -- outwards.
  by_cases within : (Layout.ofCatalog catalog).parent? target.block.name = some message.block.name
  · rw [if_pos within] at reference
    have found := resolved_here _ message.path _ (reference.symm ▸ declared)
    rw [Denotes, found, reference]
    refine ⟨rfl, fun denotes => ?_, fun free => ?_⟩
    · obtain ⟨found, result, only⟩ := denotes
      have same : target.fullName = found := Option.some.inj result
      exact ⟨fun site present named => (only site present).mp (named.trans same), .inl within⟩
    · exact ⟨_, rfl, fun site present => ⟨free.alone site present, fun same => same ▸ rfl⟩⟩
  · rw [if_neg within] at reference
    rw [reference]
    obtain ⟨known, exactly⟩ := resolved_full_name _ message.path target.fullName declared
    refine ⟨known, fun denotes => ?_, fun free => ?_⟩
    · obtain ⟨found, result, only⟩ := denotes
      have same : target.fullName = found := (only target targetPrinted).mpr rfl
      refine ⟨fun site present named => (only site present).mp (named.trans same), .inr fun site present near => ?_⟩
      intro nested before named
      refine exactly.mp (same ▸ result) near nested before ?_
      exact named ▸ List.mem_map_of_mem present
    · refine ⟨_, exactly.mpr fun near nested before first => ?_, fun site present =>
        ⟨free.alone site present, fun same => same ▸ rfl⟩⟩
      obtain ⟨site, present, named⟩ := List.mem_map.mp first
      exact free.first.resolve_left within site present near nested before named

end

def outerField : Field := { name := "outer", id := some 1, type := some "A$B" }
def ownField : Field := { name := "own", id := some 2, type := some "A$M" }
def emptyNamed (name : String) : Definition :=
  -- Inside the first message `A.B` is the block two levels down, not the one that the field
  -- means.
  { name := name, nestingPath := Schema.Name.nestingPath name, members := some [] }
def referring : Definition := { emptyNamed "A$M" with members := some [.field outerField, .field ownField] }

def capturing : Catalog where
  modules := [⟨"Capturing", .leaf .empty, [],
    [emptyNamed "A", emptyNamed "A$A", emptyNamed "A$A$B", emptyNamed "A$B", referring]⟩]
  nesting := ["A", "A$A", "A$A$B", "A$B", "A$M"].foldl
    (fun nesting key => nesting.register key (Schema.Name.nestingPath key)) {}

theorem capturing_textual : Textual capturing.nesting :=
  Recovery.textual_register_all {} _ Schema.textual_empty

theorem capturing_rooted : Rooted capturing :=
  textual_rooted capturing (by decide) capturing_textual

theorem capturing_placed : placedNames capturing = ["A", "A$A", "A$A$B", "A$B", "A$M"] := by
  have ways : placedNames capturing =
      ([["A"], ["A$A", "A"], ["A$A$B", "A$A", "A"], ["A$B", "A"], ["A$M", "A"]].flatMap List.reverse).eraseDups := by
    refine placed_names_eq capturing ["A", "A$A", "A$A$B", "A$B", "A$M"] _ (by decide) ?_ ?_
    · intro name
      simp [Defined, Catalog.definitions, capturing, emptyNamed, referring, eq_comm]
    · have top : WayOut capturing.nesting "A" ["A"] := .top _ (by decide)
      have middle : WayOut capturing.nesting "A$A" ["A$A", "A"] := .step _ _ (by decide) top
      exact .cons top (.cons middle (.cons (.step _ _ (by decide) middle)
        (.cons (.step _ _ (by decide) top) (.cons (.step _ _ (by decide) top) .nil))))
  rw [ways]
  decide

theorem capturing_placements : (Layout.ofCatalog capturing).placements =
    [⟨emptyNamed "A", "", none⟩, ⟨emptyNamed "A$A", "A", none⟩, ⟨emptyNamed "A$A$B", "A$A", none⟩,
      ⟨emptyNamed "A$B", "A", none⟩, ⟨referring, "A", none⟩] := by
  rw [placements_eq, capturing_placed]
  rfl

def captorSite : Site := ⟨["A", "A", "B"], .node (emptyNamed "A$A$B") "B" []⟩
def meantSite : Site := ⟨["A", "B"], .node (emptyNamed "A$B") "B" []⟩
def referringSite : Site := ⟨["A", "M"], .node referring "M" []⟩
def capturingSites : List Site :=
  [⟨["A"], .node (emptyNamed "A") "A"
      [.node (emptyNamed "A$A") "A" [captorSite.block], meantSite.block, referringSite.block]⟩,
    ⟨["A", "A"], .node (emptyNamed "A$A") "A" [captorSite.block]⟩, captorSite, meantSite, referringSite]

theorem capturing_printed : (Layout.ofCatalog capturing).printed = capturingSites := by
  rw [Layout.printed, Layout.blocks, capturing_placements]
  rfl

theorem capturing_types (field : Field) (type last : String) (known : field.type = some type)
    (single : field.mapTypes = none) (inside : (Layout.ofCatalog capturing).parent? type = some "A")
    (shown : Schema.Name.shownInside type "A" = last) :
    (type, "A." ++ last) ∈ (typeNames field).zip (printedTypes (Layout.ofCatalog capturing) "A$M" field) := by
  have path : (Layout.ofCatalog capturing).printedPath "A" = "A" := by
    rw [Layout.printedPath, capturing_placements]
    rfl
  have reference : (Layout.ofCatalog capturing).reference type "A$M" = "A." ++ last := by
    rw [Layout.reference, inside]
    simp only [shown, path]
    rfl
  simp [typeNames, printedTypes, known, single, reference]

theorem capturing_parents (type : String) (within : type = "A$B" ∨ type = "A$M") :
    (Layout.ofCatalog capturing).parent? type = some "A" := by
  rw [Layout.parent?, capturing_placements]
  rcases within with rfl | rfl <;> rfl

theorem own_reference_denotes :
    Denotes (Layout.ofCatalog capturing).printed referringSite.path "A.M" referringSite := by
  have printed : referringSite ∈ (Layout.ofCatalog capturing).printed := by
    simp [capturing_printed, capturingSites]
  have type := capturing_types ownField "A$M" "M" rfl rfl (capturing_parents _ (.inr rfl)) (by decide)
  refine (reference_denotes_iff_unshadowed capturing capturing_rooted referringSite referringSite printed printed
    ownField ("A$M", "A.M") type rfl).2.mpr ⟨?_, .inr ?_⟩
  · intro site present named
    simp only [capturing_printed, capturingSites, List.mem_cons, List.not_mem_nil, or_false] at present
    rcases present with rfl | rfl | rfl | rfl | rfl
    · exact absurd named (by decide)
    · exact absurd named (by decide)
    · exact absurd named (by decide)
    · exact absurd named (by decide)
    · rfl
  · intro site present scope nested before
    have free : ∀ name ∈ capturingSites.map Site.fullName, ∀ scope ∈ ["A", "M"].inits, scope ≠ [] →
        name ≠ fullName scope "A.M" := by decide
    exact free _ (List.mem_map_of_mem (capturing_printed ▸ present)) scope (List.mem_inits _ _ |>.mpr before) nested

theorem reference_captured :
    (∀ definition ∈ capturing.definitions, Segmented definition.name) ∧
      (capturing.definitions.map (·.name)).Nodup ∧ Textual capturing.nesting ∧
      ∃ message ∈ (Layout.ofCatalog capturing).printed, ∃ target ∈ (Layout.ofCatalog capturing).printed,
        ∃ field ∈ message.block.definition.allFields,
          ∃ pair ∈ (typeNames field).zip (printedTypes (Layout.ofCatalog capturing) message.block.name field),
            pair.1 = target.block.name ∧
              resolved ((Layout.ofCatalog capturing).printed.map Site.fullName) message.path pair.2 =
                some captorSite.fullName ∧
              captorSite ∈ (Layout.ofCatalog capturing).printed ∧ captorSite.block.name ≠ target.block.name ∧
              ¬ Denotes (Layout.ofCatalog capturing).printed message.path pair.2 target := by
  have found : resolved (capturingSites.map Site.fullName) ["A", "M"] "A.B" = some captorSite.fullName := by
    decide
  have type := capturing_types outerField "A$B" "B" rfl rfl (capturing_parents _ (.inl rfl)) (by decide)
  rw [capturing_printed]
  refine ⟨by decide, by decide, capturing_textual, referringSite, by simp [capturingSites], meantSite,
    by simp [capturingSites], outerField, by decide, ("A$B", "A.B"), type, rfl, found, by simp [capturingSites],
    by decide, ?_⟩
  rintro ⟨other, result, only⟩
  have same : captorSite.fullName = other := Option.some.inj (found.symm.trans result)
  have named := (only meantSite (by simp [capturingSites])).mpr rfl
  exact absurd (named.trans same.symm) (by decide)

end SchemaRecovery.Proto
