import CppIntrospect.Proofs.ManifestReport
import CppIntrospect.Proofs.OperandCycles

/-! Where the expressions of a manifest end up. The text of an argument becomes one block of
expressions: operands with operators between them take one expression for each token, every
operator after its operands, and any other text takes one. The blocks of a manifest follow each
other in the order of the arguments, and nothing stands between them. -/

namespace CppIntrospect

theorem BinaryOp.ofSpelling?_eq_some_iff {text : String} {op : BinaryOp} :
    ofSpelling? text = some op ↔ op.spelling = text := by
  constructor
  · intro h
    simpa using List.find?_some h
  · rintro rfl
    cases op <;> decide +kernel

namespace Manifest

open Text

inductive OperandKind (scope : Scope) (token : List Char) : ExprKind → Prop
  | integer {value : Int} (h : integer128? token = some value) :
    OperandKind scope token (.integerLiteral value)
  | mention {decl : DeclId} (h : integer128? token = none)
    (hn : scope.Names (String.ofList token) decl) : OperandKind scope token (.declRef decl)
  | plain (h : integer128? token = none)
    (hn : ∀ entry ∈ scope.entries, entry.id ≠ String.ofList token) :
    OperandKind scope token (.unexposed (String.ofList token))

/-- Operands with operators between them, from the id `start` on. The left operand of an
operator is all that stands before it. -/
inductive Chain (scope : Scope) (type : TypeId) (start : Nat) :
    List (List Char) → List Expr → Prop
  | operand {token : List Char} {kind : ExprKind} (h : OperandKind scope token kind) :
    Chain scope type start [token] [⟨kind, type⟩]
  | operator {tokens : List (List Char)} {block : List Expr} {token : List Char}
    {kind : ExprKind} (op : BinaryOp) (h : Chain scope type start tokens block)
    (ho : OperandKind scope token kind) :
    Chain scope type start (tokens ++ [op.spelling.toList, token])
      (block ++ [⟨kind, type⟩,
        ⟨.binary op ⟨start + (block.length - 1)⟩ ⟨start + block.length⟩, type⟩])

/-- An odd number of tokens, every second of them an operator. -/
def IsChain (tokens : List (List Char)) : Prop :=
  tokens.length % 2 = 1 ∧ ∀ (i : Nat) (token : List Char), tokens[i]? = some token → i % 2 = 1 →
    ∃ op : BinaryOp, op.spelling.toList = token

inductive LaysOut (scope : Scope) (type : TypeId) (start : Nat) (text : String) :
    List Expr → Prop
  | chain {block : List Expr} (hc : IsChain (words text.toList))
    (h : Chain scope type start (words text.toList) block) : LaysOut scope type start text block
  | plain (hc : ¬ IsChain (words text.toList)) :
    LaysOut scope type start text [⟨.unexposed (String.ofList (trim text.toList)), type⟩]

/-- The expressions of texts, one block after the other. The last of each is its root. -/
inductive LaysAll (scope : Scope) : Nat → List String → List ExprId → List Expr → Prop
  | nil {start : Nat} : LaysAll scope start [] [] []
  | cons {start : Nat} {text : String} {texts : List String} {roots : List ExprId}
    {type : TypeId} {block rest : List Expr} (h : LaysOut scope type start text block)
    (hs : LaysAll scope (start + block.length) texts roots rest) :
    LaysAll scope start (text :: texts) (⟨start + (block.length - 1)⟩ :: roots) (block ++ rest)

def interleave (rest : List (BinaryOp × List Char)) : List (List Char) :=
  rest.flatMap fun step => [step.1.spelling.toList, step.2]

theorem interleave_cons (op : BinaryOp) (token : List Char) (rest : List (BinaryOp × List Char)) :
    interleave ((op, token) :: rest) = op.spelling.toList :: token :: interleave rest := rfl

theorem operations?_eq_some_iff :
    ∀ {tokens : List (List Char)} {rest : List (BinaryOp × List Char)}, operations? tokens = some rest ↔ tokens = interleave rest
  | [], rest => by cases rest <;> simp [operations?, interleave]
  | [last], rest => by cases rest <;> simp [operations?, interleave]
  | word :: next :: tokens, [] => by
    rw [operations?]
    split <;> simp [interleave]
  | word :: next :: tokens, (op, token) :: rest => by
    have htail := @operations?_eq_some_iff tokens rest
    have hword : BinaryOp.ofSpelling? (String.ofList word) = some op ↔
        word = op.spelling.toList := by
      rw [BinaryOp.ofSpelling?_eq_some_iff, ← String.toList_inj, String.toList_ofList, eq_comm]
    rw [interleave_cons, List.cons.injEq, List.cons.injEq, ← hword, ← htail, operations?]
    split
    · next hop hrest => simp [hop, hrest, and_assoc]
    · next hnone =>
      constructor
      · simp
      · rintro ⟨hop, -, hrest⟩
        exact absurd hrest (hnone op rest hop)

theorem IsChain.tail {token word : List Char} {tokens : List (List Char)}
    (h : IsChain (token :: word :: tokens)) : IsChain tokens := by
  obtain ⟨hodd, hops⟩ := h
  refine ⟨by simp at hodd ⊢; omega, fun i found hi hi' => ?_⟩
  exact hops (i + 2) found hi (by omega)

theorem IsChain.exists_interleave : ∀ {token : List Char} {tokens : List (List Char)},
    IsChain (token :: tokens) → ∃ rest, tokens = interleave rest
  | _, [], _ => ⟨[], rfl⟩
  | _, [_], h => absurd h.1 (by simp)
  | _, word :: next :: tokens, h => by
    obtain ⟨op, rfl⟩ := h.2 1 word rfl rfl
    obtain ⟨rest, rfl⟩ := h.tail.exists_interleave
    exact ⟨(op, next) :: rest, rfl⟩

theorem isChain_interleave (token : List Char) (rest : List (BinaryOp × List Char)) :
    IsChain (token :: interleave rest) := by
  induction rest generalizing token with
  | nil =>
    refine ⟨rfl, fun i found hi hodd => ?_⟩
    obtain ⟨hlt, -⟩ := List.getElem?_eq_some_iff.mp hi
    have hzero : i = 0 := by simpa [interleave] using hlt
    omega
  | cons step rest ih =>
    obtain ⟨op, next⟩ := step
    obtain ⟨hlen, hops⟩ := ih next
    rw [interleave_cons]
    refine ⟨by simp at hlen ⊢; omega, fun i found hi hodd => ?_⟩
    match i with
    | 0 => cases hodd
    | 1 => exact ⟨op, Option.some.inj hi⟩
    | i + 2 => exact hops i found hi (by omega)

theorem isChain_cons_iff {token : List Char} {tokens : List (List Char)} :
    IsChain (token :: tokens) ↔ (operations? tokens).isSome := by
  constructor
  · intro h
    obtain ⟨rest, hrest⟩ := h.exists_interleave
    rw [operations?_eq_some_iff.mpr hrest]
    rfl
  · intro h
    obtain ⟨rest, hrest⟩ := Option.isSome_iff_exists.mp h
    rw [operations?_eq_some_iff.mp hrest]
    exact isChain_interleave token rest

theorem not_isChain_nil : ¬ IsChain [] := fun h => absurd h.1 (by decide)

instance : ∀ tokens : List (List Char), Decidable (IsChain tokens)
  | [] => .isFalse not_isChain_nil
  | _ :: _ => decidable_of_iff _ isChain_cons_iff.symm

def exprCount (text : String) : Nat :=
  if IsChain (words text.toList) then (words text.toList).length else 1

variable {scope : Scope} {type : TypeId} {start : Nat} {text : String}
  {tokens : List (List Char)} {block : List Expr}

theorem operandKind_operand (hd : scope.Distinct) (token : List Char) :
    OperandKind scope token (operand scope token) := by
  unfold operand
  rw [Scope.tables_find?]
  cases hi : integer128? token with
  | some value => exact .integer hi
  | none =>
    cases hf : scope.find? (String.ofList token) with
    | some decl => exact .mention hi (names_of_find? hd hf)
    | none =>
      refine .plain hi fun entry he hid => ?_
      have hall : ∀ other ∈ scope.entries, other.id ≠ String.ofList token := by
        simpa [Scope.find?] using hf
      exact hall entry he hid

theorem Chain.length_eq (h : Chain scope type start tokens block) :
    block.length = tokens.length := by
  induction h with
  | operand => rfl
  | operator op _ _ ih => simp [ih]

theorem Chain.length_pos (h : Chain scope type start tokens block) : 0 < block.length := by
  cases h <;> simp

theorem LaysOut.length_eq (h : LaysOut scope type start text block) :
    block.length = exprCount text := by
  cases h with
  | chain hc h => rw [exprCount, if_pos hc, h.length_eq]
  | plain hc => rw [exprCount, if_neg hc, List.length_singleton]

/-- The chain so far becomes the left operand of the next operator. -/
theorem lowerOperations_chain (hd : scope.Distinct) (rest : List (BinaryOp × List Char))
    (builder : Builder) {before : List Expr} (hb : builder.exprs = before ++ block)
    (h : Chain scope type before.length tokens block) :
    ∃ more, lowerOperations scope type rest (⟨before.length + (block.length - 1)⟩, builder) =
        (⟨before.length + (more.length - 1)⟩, { builder with exprs := before ++ more }) ∧
      Chain scope type before.length (tokens ++ interleave rest) more := by
  induction rest generalizing builder block tokens with
  | nil =>
    refine ⟨block, ?_, by simpa [interleave] using h⟩
    rw [lowerOperations, ← hb]
  | cons step rest ih =>
    obtain ⟨op, token⟩ := step
    have hgrown := h.operator op (operandKind_operand hd token)
    obtain ⟨more, hm, hc⟩ := ih { builder with exprs := _ } rfl hgrown
    refine ⟨more, ?_, by simpa [interleave] using hc⟩
    rw [← hm, lowerOperations]
    simp [Builder.addExpr, hb]

theorem lowerExpr_laysOut (hd : scope.Distinct) (text : String) (type : TypeId)
    (builder : Builder) :
    ∃ block, lowerExpr scope text type builder =
        (⟨builder.exprs.length + (block.length - 1)⟩,
          { builder with exprs := builder.exprs ++ block }) ∧
      LaysOut scope type builder.exprs.length text block := by
  have hplain : ¬ IsChain (words text.toList) → ∃ block,
      builder.addExpr ⟨.unexposed (String.ofList (trim text.toList)), type⟩ =
        (⟨builder.exprs.length + (block.length - 1)⟩,
          { builder with exprs := builder.exprs ++ block }) ∧
      LaysOut scope type builder.exprs.length text block :=
    fun hc => ⟨_, rfl, .plain hc⟩
  rw [lowerExpr_eq]
  cases hw : words text.toList with
  | nil => exact hplain (hw ▸ not_isChain_nil)
  | cons token tokens =>
    cases ho : operations? tokens with
    | none =>
      have hnot : ¬ IsChain (words text.toList) := by
        rw [hw, isChain_cons_iff, ho]
        exact Bool.false_ne_true
      simpa only [ho] using hplain hnot
    | some rest =>
      have hc : IsChain (words text.toList) := by
        rw [hw, isChain_cons_iff, ho]
        rfl
      have hfirst : Chain scope type builder.exprs.length [token] [⟨operand scope token, type⟩] :=
        .operand (operandKind_operand hd token)
      obtain ⟨more, hm, hchain⟩ := lowerOperations_chain hd rest
        (builder.addExpr ⟨operand scope token, type⟩).2 rfl hfirst
      refine ⟨more, ?_, .chain hc ?_⟩
      · simp only [ho]
        exact hm
      · rw [hw, operations?_eq_some_iff.mp ho]
        exact hchain

-- How a block reads when it stands in a unit.

/-- The tokens of a chain as they are shown, operators as they are and operands by what they
stand for. -/
def shownTokens (find : String → Option Entry) (tokens : List (List Char)) : List String :=
  tokens.mapIdx fun i token => if i % 2 = 0 then operandText find token else String.ofList token

def shownText (find : String → Option Entry) (text : String) : String :=
  if IsChain (words text.toList) then " ".intercalate (shownTokens find (words text.toList))
  else String.ofList (trim text.toList)

theorem intercalate_pair (separator : String) {texts : List String} (h : texts ≠ [])
    (second third : String) :
    separator.intercalate (texts ++ [second, third]) =
      separator.intercalate texts ++ separator ++ second ++ separator ++ third := by
  induction texts with
  | nil => exact absurd rfl h
  | cons first texts ih =>
    cases texts with
    | nil => simp [String.intercalate_cons_cons, String.append_assoc]
    | cons next texts =>
      have hrest := ih (List.cons_ne_nil next texts)
      simp only [List.cons_append] at hrest ⊢
      rw [String.intercalate_cons_cons, String.intercalate_cons_cons, hrest]
      simp [String.append_assoc]

theorem Chain.odd (h : Chain scope type start tokens block) : tokens.length % 2 = 1 := by
  induction h with
  | operand => rfl
  | operator op _ _ ih => simp; omega

theorem shownTokens_operator (find : String → Option Entry) (h : tokens.length % 2 = 1)
    (op : BinaryOp) (token : List Char) :
    shownTokens find (tokens ++ [op.spelling.toList, token]) =
      shownTokens find tokens ++ [op.spelling, operandText find token] := by
  have hnext : (1 + tokens.length) % 2 = 0 := by omega
  simp [shownTokens, List.mapIdx_append, h, hnext]

section Spelling

variable {manifest : Manifest} {builder : Builder} {unit : TranslationUnit} {rest : List Expr}

def Stands (unit : TranslationUnit) (start : Nat) (block : List Expr) : Prop :=
  ∀ (i : Nat) (expr : Expr), block[i]? = some expr → unit.expr? ⟨start + i⟩ = some expr

theorem Stands.left (h : Stands unit start (block ++ rest)) : Stands unit start block :=
  fun i expr hi => h i expr (getElem?_extend (List.prefix_append block rest) hi)

theorem Stands.right (h : Stands unit start (block ++ rest)) :
    Stands unit (start + block.length) rest := by
  intro i expr hi
  have hnext := h (block.length + i) expr (by simpa [List.getElem?_append_right] using hi)
  rwa [← Nat.add_assoc] at hnext

theorem Presents.spells_operand (hp : Presents manifest builder unit) {token : List Char}
    {kind : ExprKind} (h : OperandKind ⟨manifest.entries⟩ token kind) {id : ExprId}
    (he : unit.expr? id = some ⟨kind, type⟩) :
    unit.Spells id (operandText manifest.find? token) := by
  unfold operandText
  cases h with
  | integer hi =>
    rw [hi]
    exact .integer he
  | @mention target hi hn =>
    obtain ⟨entry, decl, hf, hd, hm⟩ := hp.exists_target hn
    have hname : unit.declName target = entry.declName := by
      simp [TranslationUnit.declName, hd, hm.name]
    have hs : unit.Spells id (unit.declName target) := .mention he
    rw [hname] at hs
    rw [hi, hf]
    exact hs
  | plain hi hn =>
    have hnone : manifest.find? (String.ofList token) = none := by
      simpa [Manifest.find?] using hn
    rw [hi, hnone]
    exact .plain he

/-- Each operator adds itself and its right operand to the text of what stands before it. -/
theorem Presents.spells_chain (hp : Presents manifest builder unit)
    (h : Chain ⟨manifest.entries⟩ type start tokens block)
    (hat : Stands unit start block) :
    unit.Spells ⟨start + (block.length - 1)⟩
      (" ".intercalate (shownTokens manifest.find? tokens)) := by
  induction h with
  | operand h => exact hp.spells_operand h (hat 0 _ rfl)
  | @operator tokens block token kind op h ho ih =>
    have hleft := ih hat.left
    have hright := hp.spells_operand ho (hat block.length ⟨kind, type⟩ (by simp))
    have hroot := hat (block.length + 1)
      ⟨.binary op ⟨start + (block.length - 1)⟩ ⟨start + block.length⟩, type⟩ (by simp)
    have hne : shownTokens manifest.find? tokens ≠ [] := by
      have hodd := h.odd
      intro hnil
      rw [shownTokens, List.mapIdx_eq_nil_iff] at hnil
      simp [hnil] at hodd
    rw [shownTokens_operator _ h.odd, intercalate_pair " " hne, List.length_append]
    exact .binary hroot hleft hright

theorem Presents.spells_laysOut (hp : Presents manifest builder unit)
    (h : LaysOut ⟨manifest.entries⟩ type start text block)
    (hat : Stands unit start block) :
    unit.Spells ⟨start + (block.length - 1)⟩ (shownText manifest.find? text) := by
  unfold shownText
  cases h with
  | chain hc h =>
    rw [if_pos hc]
    exact hp.spells_chain h hat
  | plain hc =>
    rw [if_neg hc]
    exact .plain (hat 0 _ rfl)

theorem Presents.spells_laysAll (hp : Presents manifest builder unit) {texts : List String}
    {roots : List ExprId} (h : LaysAll ⟨manifest.entries⟩ start texts roots block)
    (hat : Stands unit start block) :
    List.Forall₂ (fun text root => unit.Spells root (shownText manifest.find? text))
      texts roots := by
  induction h with
  | nil => exact .nil
  | cons h _ ih => exact .cons (hp.spells_laysOut h hat.left) (ih hat.right)

end Spelling

def OperandsBelow (start : Nat) (block : List Expr) : Prop :=
  ∀ (i : Nat) (op : BinaryOp) (lhs rhs : ExprId) (of : TypeId),
    block[i]? = some ⟨.binary op lhs rhs, of⟩ → lhs.index < start + i ∧ rhs.index < start + i

theorem OperandsBelow.append {rest : List Expr} (h : OperandsBelow start block)
    (h' : OperandsBelow (start + block.length) rest) : OperandsBelow start (block ++ rest) := by
  intro i op lhs rhs of hi
  rcases Nat.lt_or_ge i block.length with hlt | hge
  · rw [List.getElem?_append_left hlt] at hi
    exact h i op lhs rhs of hi
  · rw [List.getElem?_append_right hge] at hi
    have hrest := h' _ op lhs rhs of hi
    omega

theorem operandsBelow_singleton {expr : Expr}
    (h : ∀ op lhs rhs of, expr = ⟨.binary op lhs rhs, of⟩ →
      lhs.index < start ∧ rhs.index < start) : OperandsBelow start [expr] := by
  intro i op lhs rhs of hi
  obtain ⟨hlt, heq⟩ := List.getElem?_eq_some_iff.mp hi
  obtain rfl : i = 0 := by simpa using hlt
  exact h op lhs rhs of heq

theorem OperandKind.operandsBelow {token : List Char} {kind : ExprKind}
    (h : OperandKind scope token kind) (start : Nat) :
    OperandsBelow start [⟨kind, type⟩] := by
  apply operandsBelow_singleton
  intro op lhs rhs of heq
  cases h <;> cases heq

theorem Chain.operandsBelow (h : Chain scope type start tokens block) :
    OperandsBelow start block := by
  induction h with
  | operand h => exact h.operandsBelow start
  | @operator _ block _ kind op hc ho ih =>
    have hpos := hc.length_pos
    refine ih.append ((ho.operandsBelow (start + block.length)).append ?_)
    apply operandsBelow_singleton
    intro _ lhs rhs _ heq
    cases heq
    simp only [List.length_singleton]
    omega

theorem LaysOut.operandsBelow (h : LaysOut scope type start text block) :
    OperandsBelow start block := by
  cases h with
  | chain _ h => exact h.operandsBelow
  | plain =>
    apply operandsBelow_singleton
    intro op lhs rhs of heq
    cases heq

section Run

variable {texts moreTexts : List String} {roots moreRoots : List ExprId} {rest : List Expr}

theorem LaysAll.operandsBelow (h : LaysAll scope start texts roots block) :
    OperandsBelow start block := by
  induction h with
  | nil => exact fun i op lhs rhs of hi => by simp at hi
  | cons h _ ih => exact h.operandsBelow.append ih

theorem LaysAll.operandsFirst (h : LaysAll scope 0 texts roots block) : OperandsFirst block := by
  rintro operand parent ⟨op, lhs, rhs, of, hi, ho⟩
  obtain ⟨hl, hr⟩ := h.operandsBelow parent.index op lhs rhs of hi
  rcases ho with rfl | rfl <;> omega

theorem LaysAll.length_eq (h : LaysAll scope start texts roots block) :
    block.length = (texts.map exprCount).sum := by
  induction h with
  | nil => rfl
  | cons h _ ih => rw [List.length_append, ih, h.length_eq, List.map_cons, List.sum_cons]

theorem LaysAll.append (h : LaysAll scope start texts roots block)
    (h' : LaysAll scope (start + block.length) moreTexts moreRoots rest) :
    LaysAll scope start (texts ++ moreTexts) (roots ++ moreRoots) (block ++ rest) := by
  induction h with
  | nil => simpa using h'
  | cons h _ ih =>
    rw [List.length_append, ← Nat.add_assoc] at h'
    rw [List.append_assoc]
    exact .cons h (ih h')

end Run

-- The expression arguments of an entry and of a declaration, packs opened.
mutual

def ArgumentEntry.exprTexts : ArgumentEntry → List String
  | .expression text _ => [text]
  | .pack elements => ArgumentEntry.exprTextsOfList elements
  | _ => []

def ArgumentEntry.exprTextsOfList : List ArgumentEntry → List String
  | [] => []
  | arg :: args => arg.exprTexts ++ ArgumentEntry.exprTextsOfList args

end

mutual

def exprRoots : TemplateArgument → List ExprId
  | .expression id => [id]
  | .pack elements => exprRootsOfList elements
  | _ => []

def exprRootsOfList : List TemplateArgument → List ExprId
  | [] => []
  | arg :: args => exprRoots arg ++ exprRootsOfList args

end

def EntryKind.exprTexts (kind : EntryKind) : List String :=
  ArgumentEntry.exprTextsOfList kind.examined

def declRoots (decl : Decl) : List ExprId := exprRootsOfList (decl.args?.getD [])

/-- The builder holds the expressions of more texts. -/
def Adds (scope : Scope) (builder next : Builder) (texts : List String) (roots : List ExprId) :
    Prop :=
  ∃ block, next.exprs = builder.exprs ++ block ∧
    LaysAll scope builder.exprs.length texts roots block

section Pass

variable {builder middle next : Builder} {texts moreTexts : List String}
  {roots moreRoots : List ExprId}

theorem Adds.nothing (h : next.exprs = builder.exprs) : Adds scope builder next [] [] :=
  ⟨[], by rw [h, List.append_nil], .nil⟩

theorem Adds.append (h : Adds scope builder middle texts roots)
    (h' : Adds scope middle next moreTexts moreRoots) :
    Adds scope builder next (texts ++ moreTexts) (roots ++ moreRoots) := by
  obtain ⟨block, hm, hb⟩ := h
  obtain ⟨rest, hn, hr⟩ := h'
  rw [hm, List.length_append] at hr
  exact ⟨block ++ rest, by rw [hn, hm, List.append_assoc], hb.append hr⟩

theorem Adds.after (h : middle.exprs = builder.exprs) (h' : Adds scope middle next texts roots) :
    Adds scope builder next texts roots :=
  (Adds.nothing h).append h'

theorem addType_exprs (builder : Builder) (type : CppType) :
    (builder.addType type).2.exprs = builder.exprs := by
  rcases builder.addType_cases type with ⟨id, -, ha⟩ | ⟨-, typeIds, inverts, ha⟩
  · rw [ha]
  · rw [ha]

theorem lowerType_exprs (owner spelling : String) (builder : Builder) :
    Yields (lowerType scope owner spelling builder) fun made => made.2.exprs = builder.exprs := by
  unfold lowerType
  split
  · exact addType_exprs builder _
  · exact nofun

theorem lowerExpr_adds (hd : scope.Distinct) (text : String) (type : TypeId) (builder : Builder) :
    Adds scope builder (lowerExpr scope text type builder).2 [text]
      [(lowerExpr scope text type builder).1] := by
  obtain ⟨block, heq, hl⟩ := lowerExpr_laysOut hd text type builder
  rw [heq]
  exact ⟨block, rfl, by simpa using LaysAll.cons hl .nil⟩

mutual

theorem lowerArg_adds (hd : scope.Distinct) (owner : String) :
    ∀ (entry : ArgumentEntry) (builder : Builder),
      Yields (lowerArg scope owner entry builder) fun made =>
        Adds scope builder made.2 entry.exprTexts (exprRoots made.1)
  | .null _, _ => Adds.nothing rfl
  | .type spelling, builder => (lowerType_exprs owner spelling builder).bind fun _ h => .nothing h
  | .integral _ spelling, builder =>
    (lowerType_exprs owner spelling builder).bind fun _ h => .nothing h
  | .decl id, _ => (resolve_yields owner id).bind fun _ _ => Adds.nothing rfl
  | .template id, _ => (resolve_yields owner id).bind fun _ _ => Adds.nothing rfl
  | .expansion id, _ => (resolve_yields owner id).bind fun _ _ => Adds.nothing rfl
  | .expression text spelling, builder =>
    (lowerType_exprs owner spelling builder).bind fun made h =>
      (lowerExpr_adds hd text made.1 made.2).after h
  | .pack elements, builder => (lowerArgs_adds hd owner elements builder).bind fun _ h => h

theorem lowerArgs_adds (hd : scope.Distinct) (owner : String) :
    ∀ (entries : List ArgumentEntry) (builder : Builder),
      Yields (lowerArgs scope owner entries builder) fun made =>
        Adds scope builder made.2 (ArgumentEntry.exprTextsOfList entries)
          (exprRootsOfList made.1)
  | [], _ => Adds.nothing rfl
  | entry :: entries, builder =>
    (lowerArg_adds hd owner entry builder).bind fun made h =>
      (lowerArgs_adds hd owner entries made.2).bind fun _ hs => h.append hs

end

theorem lowerTemplating_adds (hd : scope.Distinct) (owner : String) (flavor : FunctionFlavor)
    (entry : FunctionEntry) (returns : TypeId) (params : List DeclId) (builder : Builder) :
    Yields (lowerTemplating scope owner entry builder) fun made =>
      Adds scope builder made.2 (EntryKind.function flavor entry).exprTexts
        (exprRootsOfList ((FunctionDecl.mk flavor returns params made.1).args?.getD [])) := by
  have hargs := lowerArgs_adds hd owner entry.args builder
  have hlinked : entry.linkCount ≠ 0 →
      (EntryKind.function flavor entry).exprTexts =
        ArgumentEntry.exprTextsOfList entry.args := by
    intro hne
    simp [EntryKind.exprTexts, EntryKind.examined, hne]
  unfold lowerTemplating
  split
  · next hs ho hc =>
    have hnone : (EntryKind.function flavor entry).exprTexts = [] := by
      simp [EntryKind.exprTexts, EntryKind.examined, FunctionEntry.linkCount, hs, ho, hc,
        ArgumentEntry.exprTextsOfList]
    rw [hnone]
    exact Adds.nothing rfl
  · next hs ho hc =>
    rw [hlinked (by simp [FunctionEntry.linkCount, hs, ho, hc])]
    exact (resolve_yields owner _).bind fun _ _ => hargs.bind fun _ ha => ha
  · next hs ho hc =>
    rw [hlinked (by simp [FunctionEntry.linkCount, hs, ho, hc])]
    exact (resolve_yields owner _).bind fun _ _ => hargs.bind fun _ ha => ha
  · next hne hs ho =>
    rw [hlinked (by simp_all [FunctionEntry.linkCount])]
    exact (resolveAll_yields owner _).bind fun _ _ => hargs.bind fun _ ha => ha
  · exact nofun

theorem lowerFunction_adds (hd : scope.Distinct) (owner : String) (flavor : FunctionFlavor)
    (entry : FunctionEntry) (builder : Builder) :
    Yields (lowerFunction scope owner flavor entry builder) fun made =>
      Adds scope builder made.2 (EntryKind.function flavor entry).exprTexts
        (exprRootsOfList (made.1.args?.getD [])) := by
  refine (lowerType_exprs owner _ builder).bind fun made ht => ?_
  refine (resolveAll_yields owner entry.params).bind fun params _ => ?_
  refine (lowerTemplating_adds hd owner flavor entry made.1 params made.2).bind fun _ hl => ?_
  exact .pure (hl.after ht)

theorem lowerPartial_adds (hd : scope.Distinct) (owner : String) (entry : PartialEntry)
    (builder : Builder) :
    Yields (lowerPartial scope owner entry builder) fun made =>
      Adds scope builder made.2 (EntryKind.partialSpecialization entry).exprTexts
        (exprRootsOfList (made.1.args?.getD [])) := by
  refine (resolve_yields owner entry.template).bind fun _ _ => ?_
  refine (resolveAll_yields owner entry.params).bind fun _ _ => ?_
  exact (lowerArgs_adds hd owner entry.args builder).bind fun _ ha => ha

theorem lowerSpecialization_adds (hd : scope.Distinct) (owner : String)
    (entry : SpecializationEntry) (builder : Builder) :
    Yields (lowerSpecialization scope owner entry builder) fun made =>
      Adds scope builder made.2 (EntryKind.specialization entry).exprTexts
        (exprRootsOfList (made.1.args?.getD [])) := by
  refine (lowerOrigin_yields owner entry).bind fun _ _ => ?_
  exact (lowerArgs_adds hd owner entry.args builder).bind fun _ ha => ha

theorem lowerKind_adds (hd : scope.Distinct) (owner name : String) (access : Access)
    (parent : Option DeclId) (entry : EntryKind) (builder : Builder) :
    Yields (lowerKind scope owner entry builder) fun made =>
      Adds scope builder made.2 entry.exprTexts (declRoots ⟨name, access, parent, made.1⟩) := by
  cases entry with
  | namespaceDecl | enumeration | accessLabel => exact Adds.nothing rfl
  | enumConstant _ | typeParm _ | templateParm _ => exact Adds.nothing rfl
  | record keyword entry =>
    exact (resolve?_yields owner entry.origin).bind fun _ _ => Adds.nothing rfl
  | field spelling | parm spelling | typedef spelling | typeAlias spelling =>
    exact (lowerType_exprs owner spelling builder).bind fun _ h => .nothing h
  | valueParm spelling _ =>
    exact (lowerType_exprs owner spelling builder).bind fun _ h => .nothing h
  | var entry =>
    refine (lowerType_exprs owner entry.type builder).bind fun _ h => ?_
    exact (resolve?_yields owner entry.origin).bind fun _ _ => .nothing h
  | function flavor entry =>
    exact (lowerFunction_adds hd owner flavor entry builder).bind fun _ h => h
  | template flavor entry =>
    exact (lowerTemplate_yields owner flavor entry builder).bind fun _ _ => Adds.nothing rfl
  | partialSpecialization entry =>
    exact (lowerPartial_adds hd owner entry builder).bind fun _ h => h
  | specialization entry =>
    exact (lowerSpecialization_adds hd owner entry builder).bind fun _ h => h

theorem lowerEntry_adds (hd : scope.Distinct) (entry : Entry) (builder : Builder) :
    Yields (lowerEntry scope entry builder) fun made =>
      Adds scope builder made.2 entry.kind.exprTexts (declRoots made.1) := by
  refine (lowerKind_adds hd entry.id "" .unspecified none entry.kind builder).bind fun _ hk => ?_
  exact (resolve?_yields entry.id entry.parent).bind fun _ _ => hk

theorem lowerEntries_adds (hd : scope.Distinct) (entries : List Entry) (builder : Builder) :
    Yields (lowerEntries scope entries builder).2 fun next =>
      Adds scope builder next (entries.flatMap fun entry => entry.kind.exprTexts)
        ((lowerEntries scope entries builder).1.flatMap declRoots) := by
  induction entries generalizing builder with
  | nil => exact Adds.nothing rfl
  | cons entry entries ih =>
    have hentry := lowerEntry_adds hd entry builder
    unfold lowerEntries
    cases hl : lowerEntry scope entry builder with
    | error fault =>
      rw [hl] at hentry
      exact hentry
    | ok made =>
      rw [hl] at hentry
      exact (ih made.2).mono fun next hn => hentry.append hn

theorem addBase_exprs (builder : Builder) (owner : DeclId) (type : TypeId) (access : Access)
    (isVirtual : Bool) :
    (builder.addBase owner type access isVirtual).2.exprs = builder.exprs := by
  unfold Builder.addBase
  split <;> rfl

theorem lowerBases_exprs {entry : Entry} {owner : DeclId} {bases : List BaseEntry}
    (h : lowerBases scope entry owner bases builder = .ok next) : next.exprs = builder.exprs := by
  induction bases generalizing builder with
  | nil =>
    cases h
    rfl
  | cons base bases ih =>
    have ht : Yields (lowerType scope entry.id base.type builder) _ :=
      lowerType_exprs entry.id base.type builder
    rw [lowerBases] at h
    cases hl : lowerType scope entry.id base.type builder with
    | error fault =>
      rw [hl] at h
      cases h
    | ok made =>
      rw [hl] at ht h
      simp only [bind, Except.bind] at h
      split at h
      · next after ha =>
        have hadded := addBase_exprs made.2 owner made.1
          ((base.access.map AccessKeyword.access).getD (defaultAccess entry.kind.tag?))
          base.isVirtual
        rw [ha] at hadded
        exact (ih h).trans (hadded.trans ht)
      · cases h

theorem lowerAllBases_exprs {entries : List Entry} {start : Nat}
    (h : lowerAllBases scope start entries builder = .ok next) : next.exprs = builder.exprs := by
  induction entries generalizing start builder with
  | nil =>
    cases h
    rfl
  | cons entry entries ih =>
    rw [lowerAllBases] at h
    cases hb : lowerBases scope entry ⟨start⟩ entry.kind.bases builder with
    | error fault =>
      rw [hb] at h
      cases h
    | ok middle =>
      rw [hb] at h
      exact (ih h).trans (lowerBases_exprs hb)

end Pass

theorem Keeps.declRoots_eq {first final : Decl} (h : Keeps first final) :
    declRoots final = declRoots first := by
  have hargs : final.args? = first.args? := by
    obtain ⟨-, -, -, hk⟩ := h
    unfold Decl.args?
    generalize first.kind = kind, final.kind = other at hk
    cases hk with
    | same => rfl
    | bases record bases => rfl
    | pattern function template hn => simp [FunctionDecl.args?, hn]
  rw [declRoots, declRoots, hargs]

def exprTexts (manifest : Manifest) : List String :=
  manifest.entries.flatMap fun entry => entry.kind.exprTexts

/-- The passes after the first add no expression and keep the arguments. -/
theorem toBuilder_laysAll {manifest : Manifest} {builder : Builder}
    (h : manifest.toBuilder = .ok builder) :
    LaysAll ⟨manifest.entries⟩ 0 manifest.exprTexts (builder.decls.flatMap declRoots)
      builder.exprs := by
  have hd := distinct_of_toBuilder h
  have hl := lowered_of_toBuilder h
  have hrep := firstRepeated_of_distinct hd
  have hadds := lowerEntries_adds hd manifest.entries (.empty manifest.unitName)
  have hyields : Yields (lowerEntries ⟨manifest.entries⟩ manifest.entries
    (.empty manifest.unitName)).2 _ :=
      lowerEntries_yields manifest.entries (.empty manifest.unitName)
  rw [← lower_eq_of_distinct hd] at hadds hyields
  rw [toBuilder_eq_lower] at h
  simp only [lower, hrep] at h
  cases hm : (lowerEntries ⟨manifest.entries⟩ manifest.entries (.empty manifest.unitName)).2 with
  | error fault =>
    rw [hm] at h
    cases h
  | ok made =>
    rw [hm] at h hadds hyields
    obtain ⟨based, hb, rfl⟩ : ∃ based, lowerAllBases ⟨manifest.entries⟩ 0 manifest.entries
        { made with decls := manifest.lower.1 } = .ok based ∧
          markPatterns (patterns manifest.lower.1) based = builder := by
      rw [lower_eq_of_distinct hd]
      cases hb : lowerAllBases ⟨manifest.entries⟩ 0 manifest.entries { made with decls := _ } with
      | error fault =>
        simp only [Except.bind, hb] at h
        cases h
      | ok based =>
        simp only [Except.bind, hb] at h
        exact ⟨based, rfl, Except.ok.inj h⟩
    have hexprs : (markPatterns (patterns manifest.lower.1) based).exprs = made.exprs := by
      have hbased := lowerAllBases_exprs hb
      rw [markPatterns_eq]
      exact hbased
    have hlen : manifest.lower.1.length = manifest.entries.length := hyields.2.2.length_eq.symm
    have hroots : (markPatterns (patterns manifest.lower.1) based).decls.map declRoots =
        manifest.lower.1.map declRoots := by
      apply List.ext_getElem?
      intro i
      rw [List.getElem?_map, List.getElem?_map]
      cases hi : manifest.entries[i]? with
      | some entry =>
        obtain ⟨first, hf, -, -, hfinal⟩ := hl.decls i entry hi
        rw [hf, hfinal, Option.map_some, Option.map_some, (keeps_finish _ _ _ first).declRoots_eq]
      | none =>
        have hge := List.getElem?_eq_none_iff.mp hi
        rw [List.getElem?_eq_none (hl.length ▸ hge), List.getElem?_eq_none (hlen ▸ hge)]
    obtain ⟨block, hblock, hall⟩ := hadds
    rw [List.flatMap_def, hroots, ← List.flatMap_def, hexprs, hblock]
    exact hall

theorem laysAll_of_load {manifest : Manifest} {store : Store} {id : UnitId}
    (h : (manifest.load store).result = .ok id) :
    ∃ builder unit, Presents manifest builder unit ∧ unit.id = id ∧
      (manifest.load store).store.unit id = .ok unit ∧
      LaysAll ⟨manifest.entries⟩ 0 manifest.exprTexts (unit.decls.flatMap declRoots)
        unit.exprs := by
  obtain ⟨builder, unit, hp, hid, hlive⟩ := presents_of_load h
  have hunit := Store.resolve_eq_ok_iff.mp hlive
  refine ⟨builder, unit, hp, hid, hunit, ?_⟩
  obtain ⟨made, built, hb, hbuild, hbuilt⟩ := built_of_load h
  obtain rfl : built = unit := Except.ok.inj (hbuilt.symm.trans hunit)
  obtain ⟨hdecls, -, -, hexprs⟩ := Builder.build_fields hbuild
  rw [hdecls, hexprs]
  exact toBuilder_laysAll hb

/-- The expressions of a loaded manifest are those of its expression texts, one block after the
other, and each root is shown as its text. A text that is a chain is laid out from the left, its
operands before their operators, and any other text is kept as one piece. The texts are those of
specializations and of functions with a link; without one the arguments of a function are passed
over. -/
theorem expressions_laid_out (manifest : Manifest) (store : Store) (id : UnitId)
    (h : (manifest.load store).result = .ok id) :
    ∃ unit, (manifest.load store).store.unit id = .ok unit ∧
      LaysAll ⟨manifest.entries⟩ 0 manifest.exprTexts (unit.decls.flatMap declRoots) unit.exprs ∧
      unit.exprs.length = (manifest.exprTexts.map exprCount).sum ∧
      OperandsFirst unit.exprs ∧
      List.Forall₂
        (fun text root => unit.exprText root = some (shownText manifest.find? text))
        manifest.exprTexts (unit.decls.flatMap declRoots) ∧
      ∀ (text : String) (type : TypeId) (builder : Builder), ∃ block,
        lowerExpr (Scope.tables ⟨manifest.entries⟩) text type builder =
          (⟨builder.exprs.length + (block.length - 1)⟩,
            { builder with exprs := builder.exprs ++ block }) ∧
        block.length = exprCount text ∧
        LaysOut ⟨manifest.entries⟩ type builder.exprs.length text block := by
  obtain ⟨builder, unit, hp, -, hunit, hall⟩ := laysAll_of_load h
  have hstands : Stands unit 0 unit.exprs := fun i expr hi => by
    rw [Nat.zero_add]
    exact hi
  refine ⟨unit, hunit, hall, hall.length_eq, hall.operandsFirst, ?_, ?_⟩
  · refine (hp.spells_laysAll hall hstands).imp fun text root hs => ?_
    exact TranslationUnit.exprText_eq_some_iff.mpr hs
  · intro text type builder
    obtain ⟨block, heq, hl⟩ := lowerExpr_laysOut hp.distinct text type builder
    exact ⟨block, heq, hl.length_eq, hl⟩

def buffers : Manifest where
  unitName := "buffers.cpp"
  entries :=
    [⟨"Buffer", none, none, none, .template .ofClass ⟨"Buffer-class", ["N"], none⟩⟩,
      ⟨"Buffer-class", some "Buffer", none, none, .record .classKey ⟨[], none⟩⟩,
      ⟨"N", some "Count", some "Buffer", none, .valueParm "int" ⟨0, 0, false⟩⟩,
      ⟨"Buffer<N * 4>", none, none, none, .specialization ⟨.classTag, some "Buffer", none,
        [.expression "N  * +04 - size" "int", .pack [.expression " sizeof (T) " "int"]], []⟩⟩]

/-- A chain of three operands, and in a pack a text that is no chain. -/
theorem expressions_laid_out_buffers :
    ∃ unit, (buffers.load .empty).result = .ok ⟨0, 0⟩ ∧
      (buffers.load .empty).store.unit ⟨0, 0⟩ = .ok unit ∧ unit.exprs.length = 6 ∧
      unit.exprText ⟨4⟩ = some "Count * 4 - size" ∧ unit.exprText ⟨5⟩ = some "sizeof (T)" := by
  have hload : (buffers.load .empty).result = .ok ⟨0, 0⟩ := eq_ok_of_toOption (by decide +kernel)
  obtain ⟨unit, hunit, hall, hlen, hfirst, htexts, hstep⟩ :=
    expressions_laid_out buffers .empty ⟨0, 0⟩ hload
  have hroots : ((buffers.load .empty).store.unit ⟨0, 0⟩).toOption.map
      (fun unit => unit.decls.flatMap declRoots) = some [⟨4⟩, ⟨5⟩] := by decide +kernel
  rw [hunit] at hroots
  have hroots : unit.decls.flatMap declRoots = [⟨4⟩, ⟨5⟩] := Option.some.inj hroots
  have hshown : buffers.exprTexts.map (shownText buffers.find?) =
      ["Count * 4 - size", "sizeof (T)"] := by decide +kernel
  have hcount : (buffers.exprTexts.map exprCount).sum = 6 := by decide +kernel
  rw [hroots] at htexts
  refine ⟨unit, hload, hunit, hlen.trans hcount, ?_⟩
  generalize buffers.exprTexts = texts at htexts hshown
  cases htexts with
  | cons hone hrest =>
    cases hrest with
    | cons htwo hnil =>
      cases hnil
      obtain ⟨hfirst, hsecond⟩ : _ ∧ _ := by simpa using hshown
      exact ⟨hfirst ▸ hone, hsecond ▸ htwo⟩

/-- A chain among the arguments of a function without a link leaves no expression. -/
theorem unlinked_expression_dropped :
    let sum : FunctionEntry := ⟨some "int", [], none, none, [], [.expression "1 + 2" "int"]⟩
    let manifest : Manifest := ⟨"sums.cpp", [⟨"sum", none, none, none, .function .free sum⟩]⟩
    exprCount "1 + 2" = 3 ∧ ∃ unit, (manifest.load .empty).result = .ok ⟨0, 0⟩ ∧
      (manifest.load .empty).store.unit ⟨0, 0⟩ = .ok unit ∧ unit.exprs = [] := by
  intro sum manifest
  have hload : (manifest.load .empty).result = .ok ⟨0, 0⟩ := eq_ok_of_toOption (by decide +kernel)
  obtain ⟨_, unit, -, -, hunit, -⟩ := laysAll_of_load hload
  have hexprs : ((manifest.load .empty).store.unit ⟨0, 0⟩).toOption.map TranslationUnit.exprs =
      some [] := by decide +kernel
  rw [hunit] at hexprs
  exact ⟨by decide +kernel, unit, hload, hunit, Option.some.inj hexprs⟩

end Manifest

end CppIntrospect
