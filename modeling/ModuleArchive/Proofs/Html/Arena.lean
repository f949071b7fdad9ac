import ModuleArchive.Html.Arena
import ModuleArchive.Proofs.Html.Written
import Mathlib.Tactic.Lemma

/-!
# Trees in an arena

While a document is built one node after the other, each at the end of the innermost open node, the
nodes stand in the arena in document order. Whether a node is still open cannot be seen in the
arena, so that an open node can be closed without a change of it.
-/
namespace ModuleArchive.Html

/-! ### Complete trees -/

namespace Node

mutual

def size : Node → Nat
  | text _ | comment _ => 1
  | element _ _ _ children => 1 + sizeAll children

def sizeAll : List Node → Nat
  | [] => 0
  | node :: rest => size node + sizeAll rest

end

/-- The numbers of some trees, the first of which has the number `n`. -/
def numbers (n : Nat) : List Node → List Nat
  | [] => []
  | node :: rest => n :: numbers (n + size node) rest

mutual

/-- The nodes of a tree in an arena, where it has the number `n`. -/
def laid (parent n : Nat) : Node → List ArenaNode
  | text chars => [⟨.text chars.reverse, some parent, #[]⟩]
  | comment chars => [⟨.comment chars, some parent, #[]⟩]
  | element v name attributes children =>
    ⟨.element v ⟨name, attributes, false⟩, some parent, (numbers (n + 1) children).toArray⟩ ::
      laidAll n (n + 1) children

/-- The nodes of some trees in an arena, where the first one has the number `n`. -/
def laidAll (parent n : Nat) : List Node → List ArenaNode
  | [] => []
  | node :: rest => laid parent n node ++ laidAll parent (n + size node) rest

end

variable {parent n : Nat} {nodes more : List Node}

lemma numbers_append :
    numbers n (nodes ++ more) = numbers n nodes ++ numbers (n + sizeAll nodes) more := by
  induction nodes generalizing n with
  | nil => rfl
  | cons node nodes ih => simp [numbers, sizeAll, ih, Nat.add_assoc]

lemma laidAll_append : laidAll parent n (nodes ++ more) =
    laidAll parent n nodes ++ laidAll parent (n + sizeAll nodes) more := by
  induction nodes generalizing n with
  | nil => rfl
  | cons node nodes ih => simp [laidAll, sizeAll, ih, Nat.add_assoc]

mutual

lemma length_laid : ∀ (node : Node) (parent n : Nat), (laid parent n node).length = size node
  | text _, _, _ => rfl
  | comment _, _, _ => rfl
  | element _ _ _ children, _, n => by
    rw [laid, List.length_cons, length_laidAll children, size, Nat.add_comm]

lemma length_laidAll : ∀ (nodes : List Node) (parent n : Nat),
    (laidAll parent n nodes).length = sizeAll nodes
  | [], _, _ => rfl
  | node :: rest, _, _ => by
    rw [laidAll, List.length_append, length_laid node, length_laidAll rest, sizeAll]

end

end Node

open Node

/-! ### Open nodes -/

/-- An open node with what is complete below it. -/
structure Frame where
  kind : NodeKind
  children : List Node := []

namespace Frame

/-- The frame with more below it. -/
def add (f : Frame) (nodes : List Node) : Frame := { f with children := f.children ++ nodes }

def size (f : Frame) : Nat := 1 + sizeAll f.children

/-- The open node of a frame in an arena, where it has the number `n`. `more` are its children that
are open themselves. -/
def node (f : Frame) (parent : Option Nat) (n : Nat) (more : List Nat) : ArenaNode :=
  ⟨f.kind, parent, (numbers (n + 1) f.children ++ more).toArray⟩

/-- The nodes of some frames in an arena, each one inside the one before, around an open node. -/
def around (parent : Option Nat) (n : Nat) : List Frame → List ArenaNode
  | [] => []
  | f :: inner =>
    f.node parent n [n + f.size] :: (laidAll n (n + 1) f.children ++
      around (some n) (n + f.size) inner)

def sizeAll : List Frame → Nat
  | [] => 0
  | f :: inner => f.size + sizeAll inner

/-- The number of the innermost frame. -/
def last (parent : Option Nat) (n : Nat) : List Frame → Option Nat
  | [] => parent
  | f :: inner => last (some n) (n + f.size) inner

/-- The numbers of some frames, the first of which has the number `n`. -/
def opened (n : Nat) : List Frame → List Nat
  | [] => []
  | f :: inner => n :: opened (n + f.size) inner

variable {parent : Option Nat} {n : Nat} {outer : List Frame} {f : Frame}

lemma sizeAll_concat : sizeAll (outer ++ [f]) = sizeAll outer + f.size := by
  induction outer with
  | nil => simp [sizeAll]
  | cons g outer ih => rw [List.cons_append, sizeAll, ih, sizeAll, Nat.add_assoc]

lemma last_concat : last parent n (outer ++ [f]) = some (n + sizeAll outer) := by
  induction outer generalizing parent n with
  | nil => rfl
  | cons g outer ih => simp [last, ih, sizeAll, Nat.add_assoc]

lemma opened_concat : opened n (outer ++ [f]) = opened n outer ++ [n + sizeAll outer] := by
  induction outer generalizing n with
  | nil => rfl
  | cons g outer ih => simp [opened, ih, sizeAll, Nat.add_assoc]

lemma around_concat : around parent n (outer ++ [f]) =
    around parent n outer ++ f.node (last parent n outer) (n + sizeAll outer)
      [n + sizeAll outer + f.size] :: laidAll (n + sizeAll outer) (n + sizeAll outer + 1)
        f.children := by
  induction outer generalizing parent n with
  | nil => simp [around, last, sizeAll]
  | cons g outer ih => simp [around, last, ih, sizeAll, Nat.add_assoc]

lemma length_around : (around parent n outer).length = sizeAll outer := by
  induction outer generalizing parent n with
  | nil => rfl
  | cons g outer ih =>
    simp [around, ih, length_laidAll, sizeAll, size]
    omega

/-- The arena in which an open node stands, with the frames around it. -/
def arena (outer : List Frame) (f : Frame) : List ArenaNode :=
  around none 0 outer ++ f.node (last none 0 outer) (sizeAll outer) [] ::
    laidAll (sizeAll outer) (sizeAll outer + 1) f.children

lemma length_arena : (arena outer f).length = sizeAll outer + f.size := by
  simp [arena, length_around, length_laidAll, size, Nat.add_comm, Nat.add_left_comm]

/-- An open element can be closed without a change of the arena. -/
lemma arena_concat {v : Vocabulary} {name : String} {attributes : Attributes}
    {children : List Node} :
    arena (outer ++ [f]) ⟨.element v ⟨name, attributes, false⟩, children⟩ =
      arena outer (f.add [.element v name attributes children]) := by
  simp [arena, around_concat, last_concat, sizeAll_concat, add, node, numbers_append,
    laidAll_append, numbers, laidAll, laid, size, Nat.add_assoc]

/-! ### Nodes that are added -/

lemma modify_append_cons {α : Type} (before after : List α) (x : α) (g : α → α) :
    (before ++ x :: after).modify before.length g = before ++ g x :: after := by
  induction before with
  | nil => rfl
  | cons y before ih => rw [List.cons_append, List.length_cons, List.modify_succ_cons, ih]; rfl

lemma modify_concat {α : Type} {xs : List α} {i : Nat} (h : i < xs.length) (g : α → α) (x : α) :
    (xs ++ [x]).modify i g = xs.modify i g ++ [x] := by
  induction xs generalizing i with
  | nil => exact absurd h (Nat.not_lt_zero i)
  | cons y xs ih =>
    cases i with
    | zero => rfl
    | succ i =>
      rw [List.cons_append, List.modify_succ_cons, List.modify_succ_cons,
        ih (Nat.lt_of_succ_lt_succ h), List.cons_append]

lemma getElem?_arena : (arena outer f)[sizeAll outer]? =
    some (f.node (last none 0 outer) (sizeAll outer) []) := by
  rw [arena, List.getElem?_append_right (Nat.le_of_eq length_around), length_around, Nat.sub_self]
  rfl

/-- A node without children that is put into the open node. -/
lemma modify_arena {x : Node} {k : NodeKind}
    (hx : ∀ parent n, laid parent n x = [⟨k, some parent, #[]⟩]) :
    (arena outer f).modify (sizeAll outer) (fun node =>
      { node with children := node.children.push (sizeAll outer + f.size) }) ++
        [⟨k, some (sizeAll outer), #[]⟩] = arena outer (f.add [x]) := by
  have hlen : sizeAll outer = (around none 0 outer).length := length_around.symm
  have hmodify := modify_append_cons (around none 0 outer)
    (laidAll (sizeAll outer) (sizeAll outer + 1) f.children)
    (f.node (last none 0 outer) (sizeAll outer) []) (fun node =>
      { node with children := node.children.push (sizeAll outer + f.size) })
  rw [← hlen] at hmodify
  rw [arena, hmodify]
  simp [arena, add, node, numbers_append, laidAll_append, numbers, laidAll, hx, size,
    Nat.add_assoc]

/-! ### Texts -/

/-- The nodes before a text at the end of the open node do not depend on it. -/
lemma exists_arena_text (outer : List Frame) (f : Frame) : ∃ before, before.length = sizeAll outer + f.size ∧
    ∀ chars, arena outer (f.add [.text chars]) =
      before ++ [⟨.text chars.reverse, some (sizeAll outer), #[]⟩] := by
  refine ⟨around none 0 outer ++ f.node (last none 0 outer) (sizeAll outer)
    [sizeAll outer + f.size] :: laidAll (sizeAll outer) (sizeAll outer + 1) f.children, ?_, ?_⟩
  · simp [length_around, length_laidAll, size, Nat.add_comm, Nat.add_left_comm]
  · intro chars
    simp [arena, add, node, numbers_append, laidAll_append, numbers, laidAll, laid, size,
      Nat.add_assoc]

/-- Whether a frame does not end with a text, so that a text in it is a node of its own. -/
def EndsPlain (f : Frame) : Prop := ∀ chars, f.children.getLast? ≠ some (.text chars)

end Frame

namespace Arena

open ModuleArchive.Html.Frame

/-- Whether an arena consists of an open node, what is complete below it and the frames around. -/
def Shows (a : Arena) (outer : List Frame) (f : Frame) : Prop := a.nodes.toList = arena outer f

variable {a : Arena} {outer : List Frame} {f : Frame}

lemma Shows.size_eq (h : a.Shows outer f) : a.nodes.size = sizeAll outer + f.size := by
  rw [← Array.length_toList, h, length_arena]

lemma Shows.getElem?_eq (h : a.Shows outer f) : a.nodes[sizeAll outer]? =
    some (f.node (last none 0 outer) (sizeAll outer) []) := by
  rw [← Array.getElem?_toList, h, getElem?_arena]

lemma Shows.kind_eq (h : a.Shows outer f) : a.kind (sizeAll outer) = f.kind := by
  rw [Arena.kind, h.getElem?_eq]
  rfl

lemma Shows.children_eq (h : a.Shows outer f) :
    a.children (sizeAll outer) = (numbers (sizeAll outer + 1) f.children).toArray := by
  rw [Arena.children, h.getElem?_eq]
  simp [node]

/-- A node that is put at the end of the open node. -/
lemma Shows.pushAt (h : a.Shows outer f) {x : Node} {k : NodeKind}
    (hx : ∀ parent n, laid parent n x = [⟨k, some parent, #[]⟩]) :
    (a.pushAt ⟨sizeAll outer, none⟩ k).Shows outer (f.add [x]) := by
  have hdetach : (a.push k).detach a.nodes.size = a.push k := by
    have hparent : (a.push k).parent? a.nodes.size = none := by simp [Arena.push, Arena.parent?]
    rw [detach, hparent]
  have hinsert (children : Array Nat) : Place.insertInto ⟨sizeAll outer, none⟩ children
      a.nodes.size = children.push (sizeAll outer + f.size) := by
    rw [h.size_eq]
    rfl
  have hlen : sizeAll outer < a.nodes.toList.length := by
    rw [Array.length_toList, h.size_eq, Frame.size]
    omega
  have hchild := modify_append_cons (a.nodes.toList.modify (sizeAll outer) fun node =>
    { node with children := node.children.push (sizeAll outer + f.size) }) [] ⟨k, none, #[]⟩
    (fun node => { node with parent := some (sizeAll outer) })
  rw [List.length_modify, Array.length_toList] at hchild
  rw [Arena.pushAt, attach, hdetach]
  simp only [Shows, Arena.modify, Arena.push, hinsert, Array.toList_modify, Array.toList_push,
    modify_concat hlen, hchild]
  rw [h]
  exact modify_arena hx

/-- Behind what is no text there is no text that goes on. -/
lemma Shows.textLeftOf?_eq_none (h : a.Shows outer f) (hf : f.EndsPlain) :
    a.textLeftOf? ⟨sizeAll outer, none⟩ = none := by
  obtain hnil | ⟨init, x, hx⟩ := List.eq_nil_or_concat f.children
  · have hleft : a.leftOf? ⟨sizeAll outer, none⟩ = none := by
      rw [leftOf?, h.children_eq, hnil]
      rfl
    rw [textLeftOf?, hleft]
  · rw [List.concat_eq_append] at hx
    have hleft : a.leftOf? ⟨sizeAll outer, none⟩ = some (sizeAll outer + 1 + Node.sizeAll init) := by
      rw [leftOf?, h.children_eq, hx]
      simp [Place.index?, numbers_append, numbers]
    have hnode : a.nodes[sizeAll outer + 1 + Node.sizeAll init]? =
        (laid (sizeAll outer) (sizeAll outer + 1 + Node.sizeAll init) x)[0]? := by
      have harena : arena outer f = (around none 0 outer ++
          f.node (last none 0 outer) (sizeAll outer) [] ::
            laidAll (sizeAll outer) (sizeAll outer + 1) init) ++
          laid (sizeAll outer) (sizeAll outer + 1 + Node.sizeAll init) x := by
        rw [arena, hx, laidAll_append]
        simp [laidAll]
      have hlen : (around none 0 outer ++ f.node (last none 0 outer) (sizeAll outer) [] ::
          laidAll (sizeAll outer) (sizeAll outer + 1) init).length =
            sizeAll outer + 1 + Node.sizeAll init := by
        simp [length_around, length_laidAll]
        omega
      rw [← Array.getElem?_toList, h, harena, ← hlen, List.getElem?_append_right (Nat.le_refl _),
        Nat.sub_self]
    rw [textLeftOf?, hleft]
    simp only [Arena.kind, hnode]
    cases x with
    | text chars => exact absurd (by rw [hx]; simp) (hf chars)
    | comment chars => rfl
    | element v name attributes children => rfl

/-- A character that is put at the end of the open node goes on with the text that is there, or
begins one. -/
lemma Shows.attachChar {chars : List Char} (h : a.Shows outer (f.add (texts chars)))
    (hf : f.EndsPlain) (c : Char) :
    (a.attachChar ⟨sizeAll outer, none⟩ c).Shows outer (f.add (texts (chars ++ [c]))) := by
  cases chars with
  | nil =>
    have hplain : f.add (texts []) = f := by simp [add, texts]
    rw [hplain] at h
    rw [Arena.attachChar, h.textLeftOf?_eq_none hf]
    exact h.pushAt fun parent n => rfl
  | cons first chars =>
    obtain ⟨before, hlen, hbefore⟩ := exists_arena_text outer f
    have htexts (chars : List Char) : texts (first :: chars) = [.text (first :: chars)] := rfl
    have hleft : a.leftOf? ⟨sizeAll outer, none⟩ = some before.length := by
      rw [leftOf?, h.children_eq, add, htexts, hlen]
      simp [Place.index?, numbers_append, numbers, Frame.size, Nat.add_assoc]
    rw [htexts, Shows, hbefore] at h
    have hkind : a.kind before.length = .text (first :: chars).reverse := by
      rw [Arena.kind, ← Array.getElem?_toList, h, List.getElem?_append_right (Nat.le_refl _),
        Nat.sub_self]
      rfl
    rw [Arena.attachChar, textLeftOf?, hleft]
    simp only [hkind]
    rw [Shows, Arena.modify, Array.toList_modify, h, modify_append_cons, List.cons_append, htexts,
      hbefore]
    simp

/-! ### Kinds of open nodes -/

lemma getElem?_append {before after : List ArenaNode} {x : ArenaNode}
    (h : a.nodes.toList = before ++ x :: after) : a.nodes[before.length]? = some x := by
  rw [← Array.getElem?_toList, h, List.getElem?_append_right (Nat.le_refl _), Nat.sub_self]
  rfl

lemma map_kind_opened {parent : Option Nat} {before after : List ArenaNode}
    (h : a.nodes.toList = before ++ (around parent before.length outer ++ after)) :
    (Frame.opened before.length outer).map a.kind = outer.map Frame.kind := by
  induction outer generalizing parent before with
  | nil => rfl
  | cons g outer ih =>
    rw [around, List.cons_append] at h
    have hkind : a.kind before.length = g.kind := by
      rw [Arena.kind, getElem?_append h]
      rfl
    have hlen : (before ++ g.node parent before.length [before.length + g.size] ::
        laidAll before.length (before.length + 1) g.children).length =
          before.length + g.size := by
      simp [length_laidAll, Frame.size]
      omega
    have hinner := @ih (some before.length) (before ++
      g.node parent before.length [before.length + g.size] ::
        laidAll before.length (before.length + 1) g.children) (by rw [h, hlen]; simp)
    rw [hlen] at hinner
    rw [Frame.opened, List.map_cons, List.map_cons, hkind, hinner]

/-- The open nodes of an arena are of the kinds of their frames. -/
lemma Shows.map_kind_opened (h : a.Shows outer f) :
    (Frame.opened 0 (outer ++ [f])).map a.kind = (outer ++ [f]).map Frame.kind := by
  have houter := @Arena.map_kind_opened a outer none [] _ h
  rw [List.length_nil] at houter
  rw [opened_concat, Nat.zero_add, List.map_append, List.map_append, houter, List.map_singleton,
    List.map_singleton, h.kind_eq]

/-! ### The document -/

mutual

lemma toNode_laid : ∀ (node : Node) (parent fuel : Nat) (before after : List ArenaNode),
    node.size ≤ fuel → a.nodes.toList = before ++ (laid parent before.length node ++ after) →
      a.toNode fuel before.length = some node
  | node, _, 0, _, _, hfuel, _ => absurd hfuel (by cases node <;> simp [Node.size])
  | .text chars, _, fuel + 1, before, after, _, h => by
    simp [toNode, getElem?_append h]
  | .comment chars, _, fuel + 1, before, after, _, h => by
    simp [toNode, getElem?_append h]
  | .element v name attributes children, parent, fuel + 1, before, after, hfuel, h => by
    have hchildren := filterMap_toNode_laidAll children before.length fuel
      (before ++ [⟨.element v ⟨name, attributes, false⟩, some parent,
        (numbers (before.length + 1) children).toArray⟩]) after
      (by rw [Node.size] at hfuel; omega) (by rw [h, laid]; simp)
    rw [List.length_append, List.length_singleton] at hchildren
    simp [toNode, getElem?_append h, hchildren]

lemma filterMap_toNode_laidAll : ∀ (nodes : List Node) (parent fuel : Nat)
    (before after : List ArenaNode), Node.sizeAll nodes ≤ fuel →
      a.nodes.toList = before ++ (laidAll parent before.length nodes ++ after) →
        (numbers before.length nodes).filterMap (a.toNode fuel) = nodes
  | [], _, _, _, _, _, _ => rfl
  | node :: rest, parent, fuel, before, after, hfuel, h => by
    rw [Node.sizeAll] at hfuel
    have hnode := toNode_laid node parent fuel before
      (laidAll parent (before.length + node.size) rest ++ after) (by omega)
      (by rw [h, laidAll, List.append_assoc])
    have hlen : (before ++ laid parent before.length node).length = before.length + node.size := by
      rw [List.length_append, length_laid]
    have hrest := filterMap_toNode_laidAll rest parent fuel
      (before ++ laid parent before.length node) after (by omega)
      (by rw [h, laidAll, hlen]; simp)
    rw [hlen] at hrest
    rw [numbers, List.filterMap_cons_some hnode, hrest]

end

/-- The document consists of what is below the document node. -/
theorem Shows.toDocument_eq {nodes : List Node} (h : a.Shows [] ⟨.document, nodes⟩) :
    a.toDocument = ⟨nodes⟩ := by
  have hchildren : a.children 0 = (numbers 1 nodes).toArray := h.children_eq
  have hfuel : Node.sizeAll nodes ≤ a.nodes.size + 1 := by
    have hsize := h.size_eq
    simp only [Frame.size, Frame.sizeAll] at hsize
    omega
  have hnodes := filterMap_toNode_laidAll nodes 0 (a.nodes.size + 1)
    [⟨.document, none, (numbers 1 nodes).toArray⟩] [] hfuel (by
      rw [h, arena]
      simp [around, node, last, Frame.sizeAll])
  rw [toDocument, hchildren]
  exact congrArg Document.mk hnodes

end Arena

end ModuleArchive.Html
