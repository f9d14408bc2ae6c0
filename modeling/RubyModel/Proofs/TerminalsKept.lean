/-
# No terminal is lost

A strict run gives a model with the terminals of the tree, in the same order, although children
move: a body is lifted out of its `ensure` and rescue nodes, a block is taken apart in a class,
an array is spread over the targets of an assignment, a block that is passed leaves the
arguments (`SPEC_FULL.md`, §4.1).  The exceptions are the nodes that leave a child out of the model:

| node | left out |
| --- | --- |
| `body rescue value` | its `else` part, the exceptions and further clauses of its clause |
| rescue clause as a value | further clauses |
| `&block` outside the arguments of a call | the arguments with it |
| `&block` of a call with a block of its own | the block that is passed |
| assignment to an attribute | the arguments after the first |
| `target ||= value` and `target &&= value` | the target, where it is repeated on the right |

`Whole` says that nothing left out of the model holds a terminal.  All models of a run stem from
the nodes that are asked for (`stemming`), and what stems from whole nodes has their terminals, by
induction over the rules of `Stems` (`terminals_of_stems`).
-/

import RubyModel.Program
import RubyModel.Proofs.Origins
import RubyModel.Raw.Build

namespace RubyModel
namespace Lowering

open Raw (Node Shape Place Slot askedIn callSlots besideBlock)
open Raw.Node (childTerminals)
open Model (listTerminals)
open Record (Content slotChildren)

/-- The terminals of the arguments after the first. -/
def furtherTerminals (args : Option Node) : List Terminal :=
  match (optionalArgs .strict args).result with
  | .ok models => listTerminals (models.drop 1)
  | .error _ => []

/-- The terminals of the target of an assignment. -/
def targetTerminals : Model → List Terminal
  | ⟨.elementAssign container element _⟩ =>
    Model.childTerminals container ++ Model.childTerminals element
  | ⟨.attributeAssign receiver _ _⟩ => Model.childTerminals receiver
  | _ => []

/-- The terminals of the target that the right operand of a logical assignment repeats. -/
def repeatedTerminals (second : Node) : List Terminal :=
  match (value .strict second).result with
  | .ok (some model) => targetTerminals model
  | _ => []

mutual
/-- What is left out of the model of a node, in value or argument position, holds no terminal. -/
def Whole : Node → Prop
  | ⟨_, shape⟩ => WholeShape shape

/-- What is left out of the model of a shape holds no terminal. -/
def WholeShape : Shape Node → Prop
  | .implicitNil | .leaf _ | .text .. | .var .. | .constant _ | .topConstant _ | .star
  | .variableCall _ | .emptyArray | .param _ | .restParam _ | .blockParam _ | .unsupported _ =>
    True
  | .block items | .dynamicText _ items | .elements _ items => WholeList items
  | .root a | .wrap _ a | .localAssign _ _ a | .varAssign _ _ a | .constantDecl _ a | .jump _ a
  | .splat a | .scopedConstant a _ | .yield a | .bareSuper a | .hash a => WholeChild a
  | .undef a | .isDefined a | .negation a | .unaryCall a _ | .optionalParam a => Whole a
  | .operatorAssign a _ _ b | .loop _ a b | .whenClause a b | .range a b _ | .iterator a b =>
    WholeChild a ∧ WholeChild b
  | .logical _ a b | .concat _ a b | .aliasName a b | .regexMatch a b => Whole a ∧ Whole b
  | .moduleDecl a b => Whole a ∧ WholeChild b
  | .classDecl a b c => Whole a ∧ WholeChild b ∧ WholeChild c
  | .caseOf a items b => WholeChild a ∧ WholeList items ∧ WholeChild b
  | .elementUpdate a b _ c | .ifElse a b c => WholeChild a ∧ WholeChild b ∧ WholeChild c
  | .multipleAssign _ a b c d => WholeChild a ∧ WholeChild b ∧ WholeChild c ∧ WholeChild d
  | .params a b c d e =>
    WholeChild a ∧ WholeChild b ∧ WholeChild c ∧ WholeChild d ∧ WholeChild e
  | .beginBlock body => WholeBody body
  | .define _ params body => WholeChild params ∧ WholeBody body
  | .defineOn receiver _ params body =>
    WholeChild receiver ∧ WholeChild params ∧ WholeBody body
  | .ensure body ensureBody => WholeBody body ∧ WholeChild ensureBody
  | .functionCall _ args iterator | .superCall args iterator =>
    WholeCallArgs iterator.isSome args ∧ WholeChild iterator
  | .call receiver _ args iterator =>
    WholeChild receiver ∧ WholeCallArgs iterator.isSome args ∧ WholeChild iterator
  | .rescue body clause elseBody =>
    WholeChild body ∧ WholeInlineClause clause ∧ childTerminals elseBody = []
  | .rescueBody exceptions body next =>
    WholeChild exceptions ∧ WholeChild body ∧ childTerminals next = []
  | .blockPass body args => WholeChild body ∧ childTerminals args = []
  | .attributeAssign receiver name args =>
    WholeChild receiver ∧ WholeChild args ∧ (name ≠ elementSetter → furtherTerminals args = [])
  | .logicalAssign _ first second => Whole first ∧ Whole second ∧ repeatedTerminals second = []

/-- Nothing is left out of a child. -/
def WholeChild : Option Node → Prop
  | none => True
  | some node => Whole node

/-- Nothing is left out of the nodes of a list. -/
def WholeList : List Node → Prop
  | [] => True
  | node :: nodes => Whole node ∧ WholeList nodes

/-- Nothing is left out of the arguments of a call; a block of its own takes the place of one
that is passed. -/
def WholeCallArgs (ownBlock : Bool) : Option Node → Prop
  | none => True
  | some ⟨_, shape⟩ =>
    match shape with
    | .blockPass body args =>
      WholeChild body ∧ WholeChild args ∧ (ownBlock = true → childTerminals body = [])
    | other => WholeShape other

/-- Nothing is left out of a body whose rescue node is lifted. -/
def WholeBody : Option Node → Prop
  | none => True
  | some ⟨_, shape⟩ =>
    match shape with
    | .rescue body clause elseBody => WholeChild body ∧ WholeClauses clause ∧ WholeChild elseBody
    | other => WholeShape other

/-- Nothing is left out of a chain of rescue clauses. -/
def WholeClauses : Option Node → Prop
  | none => True
  | some ⟨_, shape⟩ =>
    match shape with
    | .rescueBody exceptions body next =>
      WholeChild exceptions ∧ WholeChild body ∧ WholeClauses next
    | _ => True

/-- Only the body of the clause is left of the clause in `body rescue value`. -/
def WholeInlineClause : Option Node → Prop
  | none => True
  | some ⟨_, shape⟩ =>
    match shape with
    | .rescueBody exceptions body next =>
      childTerminals exceptions = [] ∧ WholeChild body ∧ childTerminals next = []
    | _ => True
end

/-! ## What is whole below a node -/

/-- Nothing is left out of a node that may be absent and is asked for in the given way. -/
def WholeAt : Place → Option Node → Prop
  | .callArguments, place => WholeCallArgs false place
  | .body, place => WholeBody place
  | .clause, place => WholeClauses place
  | .handler, place => WholeInlineClause place
  | _, place => WholeChild place

/-- Two ways of asking for a node that are answered alike leave the same out. -/
theorem wholeAt_settle (place : Place) (position : Position) (shape : Shape Node) :
    WholeAt (place.settle shape) (some ⟨position, shape⟩) ↔
      WholeAt place (some ⟨position, shape⟩) := by
  cases place with
  | callArguments | arguments | part | body => cases shape <;> exact Iff.rfl
  | _ => exact Iff.rfl

/-- The terminals of nodes that are asked for. -/
def askedTerminals (asked : List (Place × Node)) : List Terminal :=
  asked.flatMap fun x => x.2.terminals

/-- Nothing is left out of nodes that are asked for. -/
def WholeAsked (asked : List (Place × Node)) : Prop := ∀ x ∈ asked, WholeAt x.1 (some x.2)

section Asked

variable {asked more : List (Place × Node)} {place : Option Node} {node : Node}

/-- The terminals of what is asked for first come first. -/
theorem askedTerminals_append :
    askedTerminals (asked ++ more) = askedTerminals asked ++ askedTerminals more :=
  List.flatMap_append

theorem wholeAsked_append : WholeAsked (asked ++ more) ↔ WholeAsked asked ∧ WholeAsked more :=
  List.forall_mem_append

/-- One node that is asked for. -/
theorem askedTerminals_single (way : Place) : askedTerminals [(way, node)] = node.terminals :=
  List.append_nil _

theorem wholeAsked_single {way : Place} : WholeAsked [(way, node)] ↔ WholeAt way (some node) :=
  List.forall_mem_singleton

/-- A child that may be absent has its terminals, however it is asked for. -/
theorem askedTerminals_child (way : Place) :
    askedTerminals (way.asks place.toList) = childTerminals place := by
  cases place with
  | none => rfl
  | some node => exact askedTerminals_single way

/-- A whole child is whole where it is asked for. -/
theorem wholeAsked_child (way : Place) (whole : WholeAt way place) :
    WholeAsked (way.asks place.toList) := by
  cases place with
  | none => exact List.forall_mem_nil _
  | some node => exact wholeAsked_single.2 whole

/-- The nodes of a list are asked for as values. -/
theorem asked_list {nodes : List Node} (whole : WholeList nodes) :
    WholeAsked (Place.value.asks nodes) ∧
      askedTerminals (Place.value.asks nodes) = Node.listTerminals nodes := by
  induction nodes with
  | nil => exact ⟨List.forall_mem_nil _, rfl⟩
  | cons node nodes ih =>
    obtain ⟨others, same⟩ := ih whole.2
    exact ⟨List.forall_mem_cons.2 ⟨whole.1, others⟩, congrArg (node.terminals ++ ·) same⟩

end Asked

/-- Nothing is left out of the nodes in the slots, and with a terminal of its own before them a
node has the given terminals. -/
structure Keeps (own : List Terminal) (slots : List (Slot Node)) (terminals : List Terminal) :
    Prop where
  whole : WholeAsked (askedIn slots)
  same : own ++ askedTerminals (askedIn slots) = terminals

namespace Keeps

variable {own terminals : List Terminal} {slots : List (Slot Node)} {place : Option Node}

/-- A node without slots has its own terminals. -/
theorem nil : Keeps own [] own := ⟨List.forall_mem_nil _, List.append_nil _⟩

/-- One slot more. -/
theorem snoc (kept : Keeps own slots terminals) {slot : Slot Node} {more : List Terminal}
    (whole : WholeAsked slot.placed) (same : askedTerminals slot.placed = more) :
    Keeps own (slots ++ [slot]) (terminals ++ more) := by
  have last : askedIn (slots ++ [slot]) = askedIn slots ++ slot.placed := by
    simp [askedIn]
  constructor
  · rw [last]
    exact wholeAsked_append.2 ⟨kept.whole, whole⟩
  · rw [last, askedTerminals_append, ← List.append_assoc, kept.same, same]

/-- One child more, which may be absent. -/
theorem child (kept : Keeps own slots terminals) (way : Place) (whole : WholeAt way place) :
    Keeps own (slots ++ [⟨way, place.toList⟩]) (terminals ++ childTerminals place) :=
  kept.snoc (wholeAsked_child way whole) (askedTerminals_child way)

/-- One child more. -/
theorem node (kept : Keeps own slots terminals) (way : Place) {node : Node}
    (whole : WholeAt way (some node)) :
    Keeps own (slots ++ [⟨way, [node]⟩]) (terminals ++ node.terminals) :=
  kept.snoc (wholeAsked_single.2 whole) (askedTerminals_single way)

/-- One list of children more. -/
theorem list (kept : Keeps own slots terminals) {nodes : List Node} (whole : WholeList nodes) :
    Keeps own (slots ++ [⟨.value, nodes⟩]) (terminals ++ Node.listTerminals nodes) :=
  kept.snoc (asked_list whole).1 (asked_list whole).2

/-- A block that takes the place of one that is passed leaves the arguments beside it. -/
theorem besideBlock {args : Option Node} (whole : WholeCallArgs true args) :
    WholeChild (Raw.besideBlock args) ∧
      childTerminals (Raw.besideBlock args) = childTerminals args := by
  match args with
  | none => exact ⟨trivial, rfl⟩
  | some ⟨_, shape⟩ =>
    cases shape with
    | blockPass body args =>
      obtain ⟨-, wargs, noBlock⟩ := whole
      refine ⟨wargs, ?_⟩
      change _ = childTerminals args ++ childTerminals body
      rw [noBlock rfl, List.append_nil]
      rfl
    | _ => exact ⟨whole, rfl⟩

/-- The arguments and the block of a call. -/
theorem call (kept : Keeps own slots terminals) {args block : Option Node}
    (wargs : WholeCallArgs block.isSome args) (wblock : WholeChild block) :
    Keeps own (slots ++ callSlots args block)
      (terminals ++ childTerminals args ++ childTerminals block) := by
  cases block with
  | none =>
    have noBlock : WholeAt .value none := trivial
    have both := (kept.child .callArguments wargs).child .value noBlock
    rwa [List.append_assoc slots] at both
  | some node =>
    obtain ⟨beside, same⟩ := besideBlock wargs
    have both := (kept.child .arguments beside).node .value wblock
    rwa [List.append_assoc slots, same] at both

end Keeps

/-- The terminals of a node that is read as a value come from the slots that are asked for. -/
theorem kept_value (position : Position) {shape : Shape Node}
    (supported : Node.isUnsupported ⟨position, shape⟩ = false) (whole : WholeShape shape) :
    Keeps shape.own (shape.sources .value) (Node.terminals ⟨position, shape⟩) := by
  have start : Keeps [] [] [] := .nil
  -- The slots are added one by one, in the order in which the terminals are read.
  cases shape with
  | unsupported => cases supported
  | implicitNil | leaf | text | var | constant | topConstant | star | variableCall | emptyArray
  | param | restParam | blockParam => exact .nil
  | block | dynamicText | elements => exact start.list whole
  | root | wrap | localAssign | varAssign | constantDecl | jump | splat | scopedConstant
  | bareSuper => exact start.child .value whole
  | yield => exact start.child .arguments whole
  | hash => exact start.child .pairs whole
  | beginBlock => exact start.child .body whole
  | undef | isDefined | negation | unaryCall => exact start.node .value whole
  | optionalParam => exact start.node .default whole
  | operatorAssign | loop | whenClause | range =>
    exact (start.child .value whole.1).child .value whole.2
  | logical | aliasName => exact (start.node .value whole.1).node .value whole.2
  | regexMatch => exact (start.node .value whole.2).node .value whole.1
  | concat form =>
    cases form with
    | cat => exact (start.node .part whole.1).node .part whole.2
    | push => exact (start.node .part whole.1).node .value whole.2
  | iterator => exact (start.child .arguments whole.1).child .value whole.2
  | moduleDecl => exact (start.node .value whole.1).child .value whole.2
  | classDecl =>
    exact ((start.node .value whole.1).child .value whole.2.1).child .value whole.2.2
  | ifElse =>
    exact ((start.child .value whole.1).child .value whole.2.1).child .value whole.2.2
  | elementUpdate =>
    exact ((start.child .value whole.1).child .arguments whole.2.1).child .value whole.2.2
  | caseOf => exact ((start.child .value whole.1).list whole.2.1).child .value whole.2.2
  | multipleAssign =>
    exact (((start.child .arguments whole.1).child .value whole.2.1).child .arguments
      whole.2.2.1).child .value whole.2.2.2
  | params =>
    exact ((((start.child .arguments whole.1).child .arguments whole.2.1).child .arguments
      whole.2.2.1).child .arguments whole.2.2.2.1).child .arguments whole.2.2.2.2
  | define => exact (start.child .arguments whole.1).child .body whole.2
  | defineOn =>
    exact ((start.child .value whole.1).child .arguments whole.2.1).child .body whole.2.2
  | ensure => exact (start.child .body whole.1).child .value whole.2
  | functionCall | superCall => exact start.call whole.1 whole.2
  | call => exact (start.child .value whole.1).call whole.2.1 whole.2.2
  | attributeAssign => exact (start.child .value whole.1).child .arguments whole.2.1
  | logicalAssign => exact (start.node .value whole.1).node .value whole.2.1
  | rescue body clause elseBody =>
    obtain ⟨wbody, wclause, noElse⟩ := whole
    have both := (start.child .value wbody).child .handler wclause
    change Keeps _ _ (childTerminals body ++ childTerminals clause ++ childTerminals elseBody)
    rwa [noElse, List.append_nil]
  | rescueBody exceptions body next =>
    obtain ⟨wexceptions, wbody, noNext⟩ := whole
    have both := (start.child .arguments wexceptions).child .value wbody
    change Keeps _ _ (childTerminals exceptions ++ childTerminals body ++ childTerminals next)
    rwa [noNext, List.append_nil]
  | blockPass body args =>
    change Keeps _ _ (childTerminals args ++ childTerminals body)
    rw [whole.2]
    exact start.child .value whole.1

/-- The terminals of a node without a layer of its own come from the slots that are asked for. -/
theorem kept_enter {place : Place} (position : Position) {shape : Shape Node}
    (opens : place.opens shape = true) (whole : WholeAt place (some ⟨position, shape⟩)) :
    Keeps [] (shape.sources (place.settle shape)) (Node.terminals ⟨position, shape⟩) := by
  have start : Keeps [] [] [] := .nil
  cases place with
  | value =>
    cases shape with
    | implicitNil | wrap => exact kept_value position rfl whole
    | _ => cases opens
  | arguments =>
    cases shape with
    | elements | params | concat => exact kept_value position rfl whole
    | _ => cases opens
  | part | pairs =>
    cases shape with
    | elements => exact kept_value position rfl whole
    | _ => cases opens
  | default =>
    cases shape with
    | localAssign => exact kept_value position rfl whole
    | _ => cases opens
  | body =>
    cases shape with
    | rescue =>
      obtain ⟨wbody, wclause, welse⟩ := whole
      exact ((start.child .value wbody).child .clause wclause).child .value welse
    | ensure => exact kept_value position rfl whole
    | _ => cases opens
  | handler =>
    cases shape with
    | rescueBody exceptions body next =>
      obtain ⟨noExceptions, wbody, noNext⟩ := whole
      change Keeps _ _ (childTerminals exceptions ++ childTerminals body ++ childTerminals next)
      rw [noExceptions, noNext, List.append_nil]
      exact start.child .value wbody
    | _ => cases opens
  | _ => cases opens

/-! ## What stems from nodes has their terminals -/

/-- The terminals of a model are its own and those of its children. -/
theorem terminals_form (form : Form Model) :
    Model.terminals ⟨form⟩ = form.own ++ listTerminals form.children := by
  cases form with
  | leaf leaf =>
    cases leaf with
    | localVar scope => cases scope <;> rfl
    | _ => rfl
  | var scope => cases scope <;> rfl
  | assign target name value =>
    have only : listTerminals (value.toList ++ []) = Model.childTerminals value := by
      rw [List.append_nil, Model.listTerminals_toList]
    rcases target with word | word <;> cases word <;> exact only.symm
  | text word value dynamic items =>
    have all : listTerminals (items ++ []) = listTerminals items := by rw [List.append_nil]
    cases value with
    | none => cases word <;> exact all.symm
    | some value =>
      cases dynamic with
      | true => cases word <;> exact all.symm
      | false => cases word <;> exact congrArg (_ :: ·) all.symm
  | logicalAssign word | loop word | jump word | logical word =>
    cases word <;>
      simp only [Form.children, ModelEntry.ofForm, slotChildren, Content.children, Form.own,
        Model.listTerminals_append, Model.listTerminals_toList, List.append_nil,
        List.nil_append] <;> rfl
  | _ =>
    simp only [Form.children, ModelEntry.ofForm, slotChildren, Content.children, Form.own,
      Model.listTerminals_append, Model.listTerminals_toList, Model.listTerminals_nil,
      List.append_nil, List.nil_append, ← List.append_assoc] <;> rfl

/-- Spreading an array over the targets of an assignment keeps its terminals. -/
theorem listTerminals_assignedValues (value : Option Model) :
    listTerminals (assignedValues value) = Model.childTerminals value := by
  cases value with
  | none => rfl
  | some model =>
    obtain ⟨form⟩ := model
    cases form with
    | array values => rfl
    | _ => exact List.append_nil _

/-- The terminals of the pairs of a hash are those of its keys and values. -/
theorem listTerminals_pairs (pairs : List (Option Model × Option Model)) :
    listTerminals (pairs.map Model.pair) = listTerminals (pairedModels pairs) := by
  induction pairs with
  | nil => rfl
  | cons pair pairs ih =>
    change (Model.pair pair).terminals ++ listTerminals (pairs.map Model.pair) =
      listTerminals ((pair.1.toList ++ pair.2.toList) ++ pairedModels pairs)
    rw [ih, Model.listTerminals_append, Model.listTerminals_append, Model.listTerminals_toList,
      Model.listTerminals_toList]
    rfl

/-- What an assignment assigns has its terminals, if its target has none. -/
theorem terminals_of_assignedValue {model : Model} {assigned : Option Model}
    (taken : model.assignedValue? = some assigned) (noTarget : targetTerminals model = []) :
    Model.childTerminals assigned = model.terminals := by
  obtain ⟨form⟩ := model
  cases form with
  | assign | constantDecl => cases taken; rfl
  | elementAssign container element value =>
    cases taken
    change _ = Model.childTerminals container ++ Model.childTerminals element ++
      Model.childTerminals assigned
    rw [show _ ++ _ = [] from noTarget, List.nil_append]
  | attributeAssign receiver name value =>
    cases taken
    change _ = Model.childTerminals receiver ++ Model.childTerminals assigned
    rw [show Model.childTerminals receiver = [] from noTarget, List.nil_append]
  | _ => cases taken

/-- Models with the terminals that are asked for have those of the child. -/
theorem terminals_child {way : Place} {place : Option Node} {models : List Model}
    (kept : WholeAsked (way.asks place.toList) →
      listTerminals models = askedTerminals (way.asks place.toList))
    (whole : WholeAt way place) : listTerminals models = childTerminals place :=
  (kept (wholeAsked_child way whole)).trans (askedTerminals_child way)

/-- A node that gives a model in a strict run has a counterpart. -/
theorem supported_of_strict {position : Position} {shape : Shape Node} {model : Option Model}
    (given : (value .strict ⟨position, shape⟩).result = .ok model) :
    Node.isUnsupported ⟨position, shape⟩ = false := by
  cases shape with
  | unsupported => cases given
  | _ => rfl

/-- **What stems from nodes has their terminals,** in the same order. -/
theorem terminals_of_stems {loose : Bool} {asked : List (Place × Node)} {models : List Model}
    (stems : Stems .strict loose asked models) (whole : WholeAsked asked) :
    listTerminals models = askedTerminals asked := by
  induction stems with
  | nothing => rfl
  | append _ _ first rest =>
    obtain ⟨wfirst, wrest⟩ := wholeAsked_append.1 whole
    rw [Model.listTerminals_append, askedTerminals_append, first wfirst, rest wrest]
  | loosen _ ih => exact ih whole
  | splat _ ih =>
    rw [Model.listTerminals_toList, Model.childTerminals_map_intoSplat,
      ← Model.listTerminals_toList]
    exact ih whole
  | @settled _ place other position shape _ _ same ih =>
    refine ih (wholeAsked_single.2 ?_)
    rw [← wholeAt_settle, ← same, wholeAt_settle]
    exact wholeAsked_single.1 whole
  | leftOut permissive => cases permissive
  | @enter _ place position shape _ opens _ ih =>
    obtain ⟨below, same⟩ := kept_enter position opens (wholeAsked_single.1 whole)
    rw [ih below, askedTerminals_single, ← same]
    rfl
  | @layer _ position shape form covers given _ ih =>
    -- The layer has the terminal of the node for its own, and the others come from the slots.
    obtain ⟨below, same⟩ := kept_value position (supported_of_strict given)
      (wholeAsked_single.1 whole)
    rw [askedTerminals_single, ← same, ← ih below, ← covers.own, ← terminals_form]
    exact List.append_nil _
  | @declared position shape form name covers given bare param =>
    obtain ⟨-, same⟩ := kept_value position (supported_of_strict given)
      (wholeAsked_single.1 whole)
    have noChild : Model.terminals ⟨form⟩ = form.own := by
      rcases param with rfl | rfl <;> rfl
    rw [bare] at same
    rw [askedTerminals_single, ← same, ← covers.own, ← noChild]
    rfl
  | @setter position receiver args name object models plain found given _ _ first rest =>
    -- The arguments after the first are dropped.
    obtain ⟨wreceiver, wargs, noFurther⟩ := wholeAsked_single.1 whole
    have further := noFurther plain
    rw [furtherTerminals, found] at further
    have object := (Model.listTerminals_toList object).symm.trans (terminals_child first wreceiver)
    have only := terminals_child rest wargs
    rw [Model.listTerminals_eq_first, show listTerminals (models.drop 1) = [] from further,
      List.append_nil] at only
    rw [askedTerminals_single]
    exact (List.append_nil _).trans (congrArg₂ (· ++ ·) object only)
  | @assignment position operator left right assigned value model found taken given _ _ first
      second =>
    -- The target on the right is dropped.
    obtain ⟨wleft, wright, noTarget⟩ := wholeAsked_single.1 whole
    rw [repeatedTerminals, found] at noTarget
    have target := first (wholeAsked_single.2 wleft)
    have result := second (wholeAsked_single.2 wright)
    rw [askedTerminals_single, Model.listTerminals_toList] at target
    rw [askedTerminals_single, Model.listTerminals_cons, Model.listTerminals_nil, List.append_nil,
      ← terminals_of_assignedValue taken noTarget] at result
    rw [askedTerminals_single]
    exact (List.append_nil _).trans (congrArg₂ (· ++ ·) target result)
  | @hash position elements pairs _ _ _ ih =>
    have same := terminals_child ih (wholeAsked_single.1 whole)
    rw [← listTerminals_pairs] at same
    rw [askedTerminals_single]
    exact (List.append_nil _).trans same
  | @clause position exceptions body next models others model _ _ _ first second rest =>
    obtain ⟨wexceptions, wbody, wnext⟩ := wholeAsked_single.1 whole
    have caught := terminals_child first wexceptions
    have given := terminals_child second wbody
    have later := terminals_child rest wnext
    rw [Model.listTerminals_toList] at given
    rw [askedTerminals_single]
    exact congrArg₂ (· ++ ·) (congrArg₂ (· ++ ·) caught given) later
  | @passed position body args models model _ _ first rest =>
    obtain ⟨wbody, wargs, -⟩ := wholeAsked_single.1 whole
    have before := terminals_child first wargs
    have block := terminals_child rest wbody
    rw [Model.listTerminals_toList] at block
    rw [askedTerminals_single, Model.listTerminals_append]
    exact congrArg₂ (· ++ ·) before ((List.append_nil _).trans block)
  | contents _ ih =>
    rw [Model.listTerminals_contents, ← Model.listTerminals_toList]
    exact ih whole
  | assignedValues _ ih =>
    rw [listTerminals_assignedValues, ← Model.listTerminals_toList]
    exact ih whole

/-- A model that stems from a child has its terminals. -/
theorem kept_of_stems {place : Option Node} {model : Option Model}
    (stems : Stems .strict false (Place.value.asks place.toList) model.toList)
    (whole : WholeChild place) : Model.childTerminals model = childTerminals place := by
  have same := terminals_child (terminals_of_stems stems) whole
  rwa [Model.listTerminals_toList] at same

end Lowering

namespace ModelTree

open Raw (Node)
open Lowering (Whole)

/-- The terminals of the outcome of a strict run. -/
theorem terminals_ofOutcome {outcome : Outcome (Option Model)} {terminals : List Terminal}
    (h : outcome.Yields fun model => Model.childTerminals model = terminals) {tree : ModelTree}
    (accepted : ofOutcome outcome = .ok tree) : Model.childTerminals tree.root = terminals := by
  unfold ofOutcome at accepted
  split at accepted
  · cases accepted
  · next root found =>
    obtain rfl := Except.ok.inj accepted
    exact h root found

/-- **No terminal is lost, repeated or moved.**  If a strict run accepts a tree, by itself or as
a program, and what is left out of the model holds no terminal, the model has the terminals of
the tree in the same order. -/
theorem terminals_kept (node : Node) (whole : Whole node) :
    (∀ tree, ofNode { unknownNodes := .strict } node = .ok tree →
      Model.childTerminals tree.root = node.terminals) ∧
    ∀ tree, ofProgram { unknownNodes := .strict } node = .ok tree →
      Model.childTerminals tree.root = node.terminals := by
  constructor
  · intro tree accepted
    have stems := (Lowering.stemming .strict (some node)).asValue
    exact terminals_ofOutcome (fun root found => Lowering.kept_of_stems (stems root found) whole)
      accepted
  · intro tree accepted
    obtain ⟨position, shape⟩ := node
    cases shape with
    | root body =>
      have stems := (Lowering.stemming .strict body).asValue
      exact terminals_ofOutcome (fun root found => Lowering.kept_of_stems (stems root found) whole)
        accepted
    | _ => cases accepted

section Protected

open Raw.Build

/-- The program `def m; f(1, *xs, 2, &b); rescue E; self; ensure; 'done'; end`. -/
def protectedProgram : Node :=
  Raw.Build.root (some (define "m" none (some (ensure
    (some (rescue
      (some (functionCall "f" (some (blockPass (localVar "b")
        (some (push (cat (array [int 1]) (localVar "xs")) (int 2)))))))
      (some (rescueClause (some (array [constant "E"])) (some self) none))))
    (some (string "done"))))))

/-- The arguments, the block, the clause and the `ensure` part of a method are all kept. -/
theorem terminals_protectedProgram :
    Whole protectedProgram ∧ ∃ tree,
      ofProgram { unknownNodes := .strict } protectedProgram = .ok tree ∧
      Model.childTerminals tree.root = [.leaf (.int 1), .leaf (.localVar .method "xs"),
        .leaf (.int 2), .leaf (.localVar .method "b"), .leaf .self, .text .str "done"] := by
  have whole : Whole protectedProgram := by
    change True ∧ _
    have call : Lowering.WholeCallArgs false (some (blockPass (localVar "b")
        (some (push (cat (array [int 1]) (localVar "xs")) (int 2))))) :=
      ⟨trivial, ⟨⟨⟨trivial, trivial⟩, trivial⟩, trivial⟩, fun own => absurd own Bool.false_ne_true⟩
    exact ⟨trivial, ⟨⟨call, trivial⟩, ⟨⟨trivial, trivial⟩, trivial, trivial⟩, trivial⟩, trivial⟩
  exact ⟨whole, _, rfl, (terminals_kept protectedProgram whole).2 _ rfl⟩

end Protected

end ModelTree
end RubyModel
