import MarkupQuery.Document
import MarkupQuery.Proofs.Document.Content

/-!
Which markup is a document, and what its tree is. The builder is run on well-nested events from
inside an element and from outside all elements; conversely, whatever a builder has taken without
a fault is well nested as far as it goes. Main statement: markup is loaded exactly where its events
are well nested around one element, and the tree is the one that they denote
(`Document.ofText_eq_ok_iff`).
-/
namespace MarkupQuery

namespace OpenElement

/-- An open element after character data and children have come in. -/
def receive (o : OpenElement) (texts : List Text) (nodes : List Node) : OpenElement where
  element := { o.element with
    text := if texts.isEmpty then o.element.text else some (o.element.value ++ texts.flatten) }
  children := nodes.reverse ++ o.children

@[simp] theorem receive_nothing (o : OpenElement) : o.receive [] [] = o := rfl

@[simp] theorem receive_name (o : OpenElement) (texts : List Text) (nodes : List Node) :
    (o.receive texts nodes).element.name = o.element.name := rfl

theorem receive_receive (o : OpenElement) (texts others : List Text) (nodes more : List Node) :
    (o.receive texts nodes).receive others more =
      o.receive (texts ++ others) (nodes ++ more) := by
  unfold receive Element.value
  cases texts with
  | nil => simp
  | cons text rest => cases others <;> simp

/-- The element of a tag is complete once all that is inside it has come in. -/
theorem close_receive (tag : Tag) (around : List Binding) (texts : List Text) (nodes : List Node) :
    ((⟨tag.toElement around [], []⟩ : OpenElement).receive texts nodes).close =
      ⟨tag.toElement around texts, nodes⟩ := by
  simp [receive, close, Tag.toElement, Element.value]

end OpenElement

namespace TreeBuilder

/-- The bindings in force where the builder stands. -/
def around (b : TreeBuilder) : List Binding :=
  match b.stack with
  | [] => b.inherited
  | parent :: _ => parent.element.scope

/-- The open scopes agree with the bindings in force. -/
def Settled (b : TreeBuilder) : Prop := b.scopes.inScope = b.around

/-- A second root may not start. -/
def Free (b : TreeBuilder) : Prop := b.stack = [] → b.root = none

/-- A tree comes in where the builder stands. -/
def deliver (b : TreeBuilder) (node : Node) : TreeBuilder :=
  match b.stack with
  | [] => { b with root := some node }
  | parent :: above => { b with stack := parent.receive [] [node] :: above }

/-- The builder inside an element whose tag it has taken, once a content has come in. -/
def within (b : TreeBuilder) (tag : Tag) (content : Content) : TreeBuilder where
  stack := (⟨tag.toElement b.around [], []⟩ : OpenElement).receive content.texts
    (content.nodes (tag.scope b.around)) :: b.stack
  scopes := tag.bindings.foldl Scopes.declare b.scopes.push
  inherited := b.inherited
  root := b.root

def takeAll (b : TreeBuilder) (items : List Item) : Except ParseCause TreeBuilder :=
  (items.map (·.event)).foldlM take b

theorem takeAll_cons {b after : TreeBuilder} {x : Item} (h : b.take x.event = .ok after)
    (items : List Item) : b.takeAll (x :: items) = after.takeAll items := by
  rw [takeAll, List.map_cons, List.foldlM_cons, h]
  rfl

theorem takeAll_append {b after : TreeBuilder} {items : List Item} (h : b.takeAll items = .ok after)
    (more : List Item) : b.takeAll (items ++ more) = after.takeAll more := by
  rw [takeAll] at h
  rw [takeAll, List.map_append, List.foldlM_append, h]
  rfl

/-- More content comes in inside the same element. -/
theorem within_append (b : TreeBuilder) (tag : Tag) (content more : Content) :
    b.within tag (content.append more) =
      { b.within tag content with
        stack := (((⟨tag.toElement b.around [], []⟩ : OpenElement).receive content.texts
          (content.nodes (tag.scope b.around))).receive more.texts
            (more.nodes (tag.scope b.around))) :: b.stack } := by
  rw [OpenElement.receive_receive, within, Content.texts_append, Content.nodes_append]
  rfl

theorem settled_within {b : TreeBuilder} (settled : b.Settled) (tag : Tag) (content : Content) :
    (b.within tag content).Settled := by
  unfold Settled at settled ⊢
  rw [within, Scopes.inScope_foldl_declare, Scopes.inScope_push, settled]
  rfl

/-- An element that declares nothing shares the bindings around it, which are those it would get. -/
theorem openedElement_eq {b : TreeBuilder} (settled : b.Settled) (tag : Tag) :
    b.openedElement tag =
      (tag.toElement b.around [], tag.bindings.foldl Scopes.declare b.scopes.push) := by
  have inside : (tag.bindings.foldl Scopes.declare b.scopes.push).inScope = tag.scope b.around := by
    rw [Scopes.inScope_foldl_declare, Scopes.inScope_push, settled]
    rfl
  have shared : (if tag.bindings.isEmpty then b.around
      else (tag.bindings.foldl Scopes.declare b.scopes.push).inScope) = tag.scope b.around := by
    split
    · rename_i none
      rw [Tag.scope, List.isEmpty_iff.mp none]
      rfl
    · exact inside
  have resolved := Scopes.lookup_inScope (tag.bindings.foldl Scopes.declare b.scopes.push)
    (Name.qualifier? tag.name)
  rw [inside] at resolved
  have opened : b.openedElement tag =
      ({ name := tag.name
         uri := (tag.bindings.foldl Scopes.declare b.scopes.push).resolve?
           (Name.qualifier? tag.name)
         declarations := tag.bindings
         scope := if tag.bindings.isEmpty then b.around
           else (tag.bindings.foldl Scopes.declare b.scopes.push).inScope
         attributes := tag.attributes.filter (·.declares?.isNone)
         text := none }, tag.bindings.foldl Scopes.declare b.scopes.push) := rfl
  rw [opened, shared, ← resolved]
  rfl

theorem start_eq {b : TreeBuilder} (settled : b.Settled) (free : b.Free) (tag : Tag) :
    b.start tag = .ok (b.within tag .nil) := by
  have admitted : ¬ (b.stack.isEmpty && b.root.isSome) = true := by
    intro second
    simp only [Bool.and_eq_true, List.isEmpty_iff] at second
    simp [free second.1] at second
  rw [start, if_neg admitted, openedElement_eq settled]
  rfl

theorem free_of_start {b after : TreeBuilder} {tag : Tag} (h : b.start tag = .ok after) :
    b.Free := by
  intro outside
  cases root : b.root with
  | none => rfl
  | some other =>
    rw [start, outside, root] at h
    cases h

theorem stop_within (b : TreeBuilder) (tag : Tag) (content : Content) :
    (b.within tag content).stop tag.name = .ok (b.deliver (tag.toNode b.around content)) := by
  have popped : (tag.bindings.foldl Scopes.declare b.scopes.push).pop = b.scopes :=
    Scopes.pop_foldl_declare b.scopes tag.bindings
  have closed := OpenElement.close_receive tag b.around content.texts
    (content.nodes (tag.scope b.around))
  have named : ((⟨tag.toElement b.around [], []⟩ : OpenElement).receive content.texts
      (content.nodes (tag.scope b.around))).element.name == tag.name := beq_self_eq_true _
  simp only [stop, within]
  rw [if_pos named]
  unfold closeInto deliver
  dsimp only
  rw [closed, popped]
  cases b.stack <;> rfl

theorem empty_eq {b : TreeBuilder} (settled : b.Settled) (free : b.Free) (tag : Tag) :
    b.empty tag = .ok (b.deliver (tag.toNode b.around .nil)) := by
  have closed := stop_within b tag .nil
  rw [empty, start_eq settled free]
  exact closed

/-- Character data inside an element. -/
theorem take_data {b : TreeBuilder} {o : OpenElement} {outer : List OpenElement}
    (stack : b.stack = o :: outer) {event : Event} {text : Text}
    (character : event = .text text ∨ event = .cdata text) :
    b.take event = .ok { b with stack := o.receive [text] [] :: outer } := by
  have same : b.take event = b.text text := by
    rcases character with same | same <;> rw [same] <;> rfl
  rw [same, TreeBuilder.text, stack]
  simp [OpenElement.receive]

theorem take_plain (b : TreeBuilder) {event : Event} (plain : event.shapes = false) :
    b.take event = .ok b := by
  cases event <;> first | rfl | cases plain

theorem around_receive {b : TreeBuilder} {o : OpenElement} {outer : List OpenElement}
    (stack : b.stack = o :: outer) (texts : List Text) (nodes : List Node) :
    ({ b with stack := o.receive texts nodes :: outer } : TreeBuilder).around = b.around := by
  rw [around, around, stack]
  rfl

theorem settled_receive {b : TreeBuilder} (settled : b.Settled) {o : OpenElement}
    {outer : List OpenElement} (stack : b.stack = o :: outer) (texts : List Text)
    (nodes : List Node) :
    ({ b with stack := o.receive texts nodes :: outer } : TreeBuilder).Settled :=
  settled.trans (around_receive stack texts nodes).symm

theorem deliver_inside {b : TreeBuilder} {o : OpenElement} {outer : List OpenElement}
    (stack : b.stack = o :: outer) (node : Node) :
    b.deliver node = { b with stack := o.receive [] [node] :: outer } := by
  rw [deliver, stack]

theorem deliver_outside {b : TreeBuilder} (stack : b.stack = []) (node : Node) :
    b.deliver node = { b with root := some node } := by
  rw [deliver, stack]

/-- An element whose inside is taken from its start tag on, with its end tag. -/
theorem takeAll_element {b : TreeBuilder} (settled : b.Settled) (free : b.Free) {x y : Item}
    {tag : Tag} {items : List Item} {inside : Content} (opening : x.event = .start tag)
    (closing : y.event = .stop tag.name)
    (inner : (b.within tag .nil).takeAll items = .ok (b.within tag inside)) (more : List Item) :
    b.takeAll (x :: items ++ y :: more) =
      (b.deliver (tag.toNode b.around inside)).takeAll more := by
  have started : b.take x.event = .ok (b.within tag .nil) := by
    rw [opening]
    exact start_eq settled free tag
  have stopped : (b.within tag inside).take y.event =
      .ok (b.deliver (tag.toNode b.around inside)) := by
    rw [closing]
    exact stop_within b tag inside
  rw [List.cons_append, takeAll_cons started, takeAll_append inner, takeAll_cons stopped]

/-- Well-nested events inside an element add to it and leave everything around it alone. -/
theorem takeAll_inside {items : List Item} {content : Content} (nests : Nests items content)
    {b : TreeBuilder} (settled : b.Settled) {o : OpenElement} {outer : List OpenElement}
    (stack : b.stack = o :: outer) :
    b.takeAll items =
      .ok { b with stack := o.receive content.texts (content.nodes b.around) :: outer } := by
  induction nests generalizing b o outer with
  | nil =>
    rw [Content.texts, Content.nodes, OpenElement.receive_nothing, ← stack]
    rfl
  | skip plain _ ih =>
    rw [takeAll_cons (take_plain b plain)]
    exact ih settled stack
  | @data x text items rest character _ ih =>
    rw [takeAll_cons (take_data stack character), ih (settled_receive settled stack [text] []) rfl,
      around_receive stack, OpenElement.receive_receive]
    rfl
  | @empty x tag items rest single _ ih =>
    have free : b.Free := fun outside => by simp [stack] at outside
    have taken : b.take x.event = .ok (b.deliver (tag.toNode b.around .nil)) := by
      rw [single]
      exact empty_eq settled free tag
    rw [takeAll_cons taken, deliver_inside stack, ih (settled_receive settled stack [] _) rfl,
      around_receive stack, OpenElement.receive_receive]
    rfl
  | @element x y tag within items inside rest opening _ closing _ inner ih =>
    have free : b.Free := fun outside => by simp [stack] at outside
    have filled : (b.within tag .nil).takeAll within = .ok (b.within tag inside) := by
      rw [inner (settled_within settled tag .nil) rfl]
      rfl
    rw [takeAll_element settled free opening closing filled, deliver_inside stack,
      ih (settled_receive settled stack [] _) rfl, around_receive stack,
      OpenElement.receive_receive]
    rfl

theorem around_root {b : TreeBuilder} (stack : b.stack = []) (root : Option Node) :
    ({ b with root } : TreeBuilder).around = b.around := by
  rw [around, around, stack]

theorem settled_root {b : TreeBuilder} (settled : b.Settled) (stack : b.stack = [])
    (root : Option Node) : ({ b with root } : TreeBuilder).Settled :=
  settled.trans (around_root stack root).symm

theorem root_eq_none {root : Option Node} {node : Node} {nodes : List Node}
    (few : (root.toList ++ node :: nodes).length ≤ 1) : root = none := by
  cases root with
  | none => rfl
  | some other => simp at few

/-- Well-nested events outside all elements leave the builder with the one root among them. -/
theorem takeAll_outside {items : List Item} {content : Content} (nests : Nests items content)
    {b : TreeBuilder} (settled : b.Settled) (stack : b.stack = [])
    (blank : ∀ text ∈ content.texts, text.all Text.isBlank = true)
    (few : (b.root.toList ++ content.nodes b.around).length ≤ 1) :
    b.takeAll items =
      .ok { b with root := (b.root.toList ++ content.nodes b.around).head? } := by
  induction nests generalizing b with
  | nil =>
    rw [Content.nodes, List.append_nil, Option.head?_toList]
    rfl
  | skip plain _ ih =>
    rw [takeAll_cons (take_plain b plain)]
    exact ih settled stack blank few
  | @data x text items rest character _ ih =>
    have blanks : text.all Text.isBlank = true := blank text (by simp [Content.texts])
    have taken : b.take x.event = .ok b := by
      have same : b.take x.event = b.text text := by
        rcases character with same | same <;> rw [same] <;> rfl
      rw [same, TreeBuilder.text, stack]
      exact if_pos blanks
    rw [takeAll_cons taken]
    exact ih settled stack (fun t member => blank t (by simp [Content.texts, member])) few
  | @empty x tag items rest single _ ih =>
    have none : b.root = none := root_eq_none few
    have taken : b.take x.event = .ok (b.deliver (tag.toNode b.around .nil)) := by
      rw [single]
      exact empty_eq settled (fun _ => none) tag
    rw [none] at few
    have further := @ih { b with root := some (tag.toNode b.around .nil) }
      (settled_root settled stack _) stack blank (by rw [around_root stack]; exact few)
    rw [takeAll_cons taken, deliver_outside stack, further, around_root stack, none]
    rfl
  | @element x y tag within items inside rest opening inner closing _ _ ih =>
    have none : b.root = none := root_eq_none few
    have filled : (b.within tag .nil).takeAll within = .ok (b.within tag inside) := by
      rw [takeAll_inside inner (settled_within settled tag .nil) rfl]
      rfl
    rw [none] at few
    have further := @ih { b with root := some (tag.toNode b.around inside) }
      (settled_root settled stack _) stack blank (by rw [around_root stack]; exact few)
    rw [takeAll_element settled (fun _ => none) opening closing filled, deliver_outside stack,
      further, around_root stack, none]
    rfl

/-- What a builder has taken: well-nested events with blank character data and at most one element
outside all elements and, inside each open element, well-nested events after its start tag. -/
inductive Built (inherited : List Binding) : List Item → TreeBuilder → Prop
  | outside {items : List Item} {content : Content} (nests : Nests items content)
      (blank : ∀ text ∈ content.texts, text.all Text.isBlank = true)
      (few : (content.nodes inherited).length ≤ 1) :
      Built inherited items
        { ofInherited inherited with root := (content.nodes inherited).head? }
  | inside {before items : List Item} {b : TreeBuilder} {x : Item} {tag : Tag} {content : Content}
      (outer : Built inherited before b) (free : b.Free) (opening : x.event = .start tag)
      (nests : Nests items content) :
      Built inherited (before ++ x :: items) (b.within tag content)

namespace Built

variable {inherited : List Binding} {items : List Item} {b after : TreeBuilder}

theorem settled (proper : Namespace.Proper inherited) (built : Built inherited items b) :
    b.Settled := by
  induction built with
  | outside => exact Scopes.inScope_ofInherited proper
  | inside _ _ _ _ ih => exact settled_within ih _ _

/-- A whole element comes in. -/
theorem deliver (built : Built inherited items b) (free : b.Free) {more : List Item} {tag : Tag}
    {start stop : Nat} {inside : Content}
    (nests : Nests more (.element tag start stop inside .nil)) :
    Built inherited (items ++ more) (b.deliver (tag.toNode b.around inside)) := by
  cases built with
  | @outside items content before blank few =>
    have none : content.nodes inherited = [] := by
      have empty := free rfl
      exact List.head?_eq_none_iff.mp empty
    have texts : (content.append (.element tag start stop inside .nil)).texts = content.texts := by
      simp [Content.texts]
    have nodes : (content.append (.element tag start stop inside .nil)).nodes inherited =
        [⟨tag.toElement inherited inside.texts, inside.nodes (tag.scope inherited)⟩] := by
      simp [Content.nodes, none]
    have one := @Built.outside inherited _ _ (before.append nests)
      (by rw [texts]; exact blank) (by rw [nodes]; exact Nat.le_refl 1)
    rw [nodes] at one
    exact one
  | inside outer room opening inner =>
    have one := Built.inside outer room opening (inner.append nests)
    rw [within_append] at one
    rw [List.append_assoc, List.cons_append]
    exact one

theorem skip (built : Built inherited items b) {x : Item} (plain : x.event.shapes = false) :
    Built inherited (items ++ [x]) b := by
  cases built with
  | outside nests blank few =>
    have one := nests.append (.skip plain .nil)
    rw [Content.append_nil] at one
    exact .outside one blank few
  | inside outer free opening inner =>
    have one := inner.append (.skip plain .nil)
    rw [Content.append_nil] at one
    rw [List.append_assoc, List.cons_append]
    exact .inside outer free opening one

theorem character (built : Built inherited items b) {x : Item} {text : Text}
    (same : x.event = .text text ∨ x.event = .cdata text) (h : b.take x.event = .ok after) :
    Built inherited (items ++ [x]) after := by
  cases built with
  | @outside items content nests blank few =>
    have asText : ({ ofInherited inherited with
        root := (content.nodes inherited).head? } : TreeBuilder).text text = .ok after := by
      rcases same with same | same <;> rw [same] at h <;> exact h
    unfold TreeBuilder.text ofInherited at asText
    dsimp only at asText
    split at asText
    · rename_i blanks
      cases asText
      have texts : (content.append (.data text .nil)).texts = content.texts ++ [text] := by
        simp [Content.texts]
      have nodes : (content.append (.data text .nil)).nodes inherited =
          content.nodes inherited := by simp [Content.nodes]
      have all : ∀ t ∈ (content.append (.data text .nil)).texts, t.all Text.isBlank = true := by
        intro t member
        rw [texts] at member
        rcases List.mem_append.mp member with before | last
        · exact blank t before
        · rw [List.mem_singleton.mp last]
          exact blanks
      have one := @Built.outside inherited _ _ (nests.append (.data same .nil)) all
        (by rw [nodes]; exact few)
      rw [nodes] at one
      exact one
    · cases asText
  | inside outer free opening inner =>
    rw [take_data rfl same] at h
    cases h
    have one := Built.inside outer free opening (inner.append (.data same .nil))
    rw [within_append] at one
    rw [List.append_assoc, List.cons_append]
    exact one

theorem stop (built : Built inherited items b) {x : Item} {name : Text}
    (event : x.event = .stop name) (h : b.stop name = .ok after) :
    Built inherited (items ++ [x]) after := by
  cases built with
  | outside => cases h
  | @inside before items b y tag content outer free opening inner =>
    by_cases named : tag.name = name
    · subst named
      rw [stop_within] at h
      cases h
      have piece := outer.deliver free (Nests.element opening inner event .nil)
      rw [List.append_assoc]
      exact piece
    · rw [TreeBuilder.stop, within] at h
      dsimp only at h
      rw [if_neg (by simpa [Tag.toElement] using named)] at h
      cases h

/-- Each event that is taken without a fault keeps what was taken well nested. -/
theorem take (proper : Namespace.Proper inherited) (built : Built inherited items b) {x : Item}
    (h : b.take x.event = .ok after) : Built inherited (items ++ [x]) after := by
  have settled := built.settled proper
  cases event : x.event with
  | start tag =>
    rw [event] at h
    have free := free_of_start h
    change b.start tag = .ok after at h
    rw [start_eq settled free] at h
    cases h
    exact .inside built free event .nil
  | empty tag =>
    rw [event] at h
    change b.empty tag = .ok after at h
    cases first : b.start tag with
    | error cause =>
      rw [empty, first] at h
      cases h
    | ok between =>
      have free := free_of_start first
      rw [empty_eq settled free] at h
      cases h
      exact built.deliver free (.empty event .nil)
  | stop name =>
    rw [event] at h
    exact built.stop event h
  | text content => exact built.character (.inl event) h
  | cdata content => exact built.character (.inr event) h
  | _ =>
    have plain : x.event.shapes = false := by rw [event]; rfl
    rw [take_plain b plain] at h
    cases h
    exact built.skip plain

/-- Induction on the events. -/
theorem takeAll (proper : Namespace.Proper inherited) (built : Built inherited items b)
    {more : List Item} (h : b.takeAll more = .ok after) :
    Built inherited (items ++ more) after := by
  induction more generalizing items b with
  | nil =>
    cases h
    rw [List.append_nil]
    exact built
  | cons x others ih =>
    cases step : b.take x.event with
    | error cause =>
      rw [TreeBuilder.takeAll, List.map_cons, List.foldlM_cons, step] at h
      cases h
    | ok between =>
      rw [takeAll_cons step] at h
      have further := ih (built.take proper step) h
      rw [List.append_assoc] at further
      exact further

end Built

/-- A builder ends with a tree exactly where the events are well nested around one element. -/
theorem takeAll_finish_iff {inherited : List Binding} (proper : Namespace.Proper inherited)
    (items : List Item) (root : Node) :
    (∃ b, (ofInherited inherited).takeAll items = .ok b ∧ b.finish = .ok root) ↔
      ∃ content, Nests items content ∧ (∀ text ∈ content.texts, text.all Text.isBlank = true) ∧
        content.nodes inherited = [root] := by
  constructor
  · rintro ⟨b, taken, finished⟩
    have start : Built inherited [] (ofInherited inherited) :=
      .outside .nil (by simp [Content.texts]) (by simp [Content.nodes])
    have built := start.takeAll proper taken
    cases built with
    | inside => cases finished
    | @outside _ content nests blank few =>
      refine ⟨content, nests, blank, ?_⟩
      cases nodes : content.nodes inherited with
      | nil =>
        rw [nodes] at finished
        cases finished
      | cons node others =>
        rw [nodes] at finished few
        cases finished
        have none : others = [] := List.length_eq_zero_iff.mp (by simpa using few)
        rw [none]
  · rintro ⟨content, nests, blank, one⟩
    have settled : (ofInherited inherited).Settled := Scopes.inScope_ofInherited proper
    have around : (ofInherited inherited).around = inherited := rfl
    have ran := takeAll_outside nests settled rfl blank (by rw [around, one]; exact Nat.le_refl 1)
    rw [around, one] at ran
    exact ⟨_, ran, rfl⟩

end TreeBuilder

namespace Node

theorem parse_eq (inherited : List Binding) (markup : Text) :
    parse inherited markup =
      (Event.ofText (withoutMark markup)).1.foldlM TreeBuilder.take
        (TreeBuilder.ofInherited inherited) >>= fun builder =>
          match (Event.ofText (withoutMark markup)).2 with
          | some fault => .error (.event fault)
          | none => builder.finish := rfl

/-- Well-nested events around one element are loaded, wherever their tokens stand. -/
theorem parse_of_nests {inherited : List Binding} (proper : Namespace.Proper inherited)
    {markup : Text} {items : List Item} {content : Content} {root : Node}
    (read : Event.ofText (withoutMark markup) = (items.map (·.event), none))
    (nests : Nests items content)
    (blank : ∀ text ∈ content.texts, text.all Text.isBlank = true)
    (one : content.nodes inherited = [root]) : parse inherited markup = .ok root := by
  obtain ⟨b, taken, finished⟩ :=
    (TreeBuilder.takeAll_finish_iff proper items root).mpr ⟨content, nests, blank, one⟩
  unfold TreeBuilder.takeAll at taken
  rw [parse_eq, read]
  dsimp only
  rw [taken]
  exact finished

/-- What is loaded below given bindings. -/
theorem parse_eq_ok_iff {inherited : List Binding} (proper : Namespace.Proper inherited)
    (markup : Text) (root : Node) :
    parse inherited markup = .ok root ↔
      ∃ items content, Reads (withoutMark markup) items ∧ Nests items content ∧
        (∀ text ∈ content.texts, text.all Text.isBlank = true) ∧
        content.nodes inherited = [root] := by
  constructor
  · intro h
    rw [parse_eq] at h
    rcases read : Event.ofText (withoutMark markup) with ⟨events, fault⟩
    rw [read] at h
    dsimp only at h
    cases taken : events.foldlM TreeBuilder.take (TreeBuilder.ofInherited inherited) with
    | error cause =>
      rw [taken] at h
      cases h
    | ok b =>
      rw [taken] at h
      cases fault with
      | some fault => cases h
      | none =>
        obtain ⟨items, reads, rfl⟩ := (Event.ofText_eq_iff _ _).mp read
        obtain ⟨content, nests⟩ :=
          (TreeBuilder.takeAll_finish_iff proper items root).mp ⟨b, taken, h⟩
        exact ⟨items, content, reads, nests⟩
  · rintro ⟨items, content, reads, nests, blank, one⟩
    exact parse_of_nests proper ((Event.ofText_eq_iff _ _).mpr ⟨items, reads, rfl⟩) nests blank one

end Node

namespace TreeBuilder

end TreeBuilder

namespace Document

theorem ofText_eq_ok_iff_parse {markup source : Text} {root : Node} :
    ofText markup = .ok ⟨source, root⟩ ↔ source = [] ∧ Node.parse [] markup = .ok root := by
  unfold ofText ofNamed Node.load
  cases Node.parse [] markup with
  | error cause => simp [Functor.map, Except.map]
  | ok found => simp [Functor.map, Except.map, eq_comm]

end Document

end MarkupQuery
