import ProposalLint.Markdown.Event

namespace ProposalLint.Markdown

-- Whether an event stands for itself, that is, neither opens nor closes an element.
def Event.isContent : Event → Bool
  | enter _ | leave => false
  | _ => true

-- What an element can hold: events that stand for themselves, and elements.
inductive Item where
  | content (event : Event) (isContent : event.isContent) (span : Span)
  | element (tag : Tag) (span : Span) (items : List Item)

mutual

-- The balanced stream of an item. An element is closed over the range over which it was opened.
def Item.events : Item → List Located
  | .content event _ span => [(event, span)]
  | .element tag span items => (.enter tag, span) :: eventsOf items ++ [(.leave, span)]

def eventsOf : List Item → List Located
  | [] => []
  | i :: is => i.events ++ eventsOf is

end

-- The balanced completion of a stream: nothing is closed that is not open, and what is still open
-- at the end is closed there. `opened` are the ranges of the open elements, innermost first.
def completion : (opened : List Span) → List Located → List Located
  | opened, [] => opened.map (.leave, ·)
  | opened, (.enter tag, span) :: events => (.enter tag, span) :: completion (span :: opened) events
  | [], (.leave, _) :: events => completion [] events
  | span :: opened, (.leave, _) :: events => (.leave, span) :: completion opened events
  | opened, event :: events => event :: completion opened events

-- `Closes opened events` says that `events` is balanced but for the ends of the elements that were
-- opened before.
inductive Closes : List Span → List Located → Prop
  | nil (items : List Item) : Closes [] (eventsOf items)
  | cons (items : List Item) : (Closes opened events) →
      Closes (span :: opened) (eventsOf items ++ (.leave, span) :: events)

section Completion

variable {opened : List Span} {events : List Located}

theorem completion_content (h : event.isContent) :
    completion opened ((event, span) :: events) = (event, span) :: completion opened events := by
  cases event <;> simp_all [completion, Event.isContent]

theorem Closes.push (item : Item) (c : Closes opened events) :
    Closes opened (item.events ++ events) := by
  cases c
  case nil items => exact .nil (item :: items)
  case cons opened events span items c =>
    rw [← List.append_assoc]
    exact .cons (item :: items) c

theorem completion_closes (opened : List Span) (events : List Located) :
    Closes opened (completion opened events) := by
  induction events generalizing opened
  case nil =>
    induction opened
    case nil => exact .nil []
    case cons ih => exact .cons [] ih
  case cons e events ih =>
    have ⟨event, span⟩ := e
    by_cases hc : event.isContent
    case pos =>
      rw [completion_content hc]
      exact (ih opened).push (.content event hc span)
    case neg =>
      cases event <;> simp [Event.isContent] at hc
      case enter tag =>
        rw [completion]
        have c := ih (span :: opened)
        generalize completion (span :: opened) events = rest at c ⊢
        cases c
        case cons events' items c =>
          have := c.push (.element tag span items)
          simpa [Item.events] using this
      case leave =>
        cases opened
        case nil => exact ih []
        case cons opened => exact .cons [] (ih opened)

-- Every stream has a balanced reading.
theorem exists_eventsOf_eq_completion (events : List Located) :
    ∃ items, eventsOf items = completion [] events := by
  generalize completion [] events = rest, completion_closes [] events = c
  cases c
  case nil items => exact ⟨items, rfl⟩

end Completion

section Unique

-- What can stand behind the content of an element: its end, or the end of the stream.
def Ends (events : List Located) : Prop :=
  events = [] ∨ ∃ span rest, events = (.leave, span) :: rest

theorem Ends.leave : Ends ((.leave, span) :: events) :=
  .inr ⟨_, _, rfl⟩

theorem Item.not_ends (i : Item) : ¬Ends (i.events ++ es) := by
  cases i
  case content event hc _ =>
    simp only [Ends, Item.events, List.cons_append, List.cons.injEq, Prod.mk.injEq]
    rintro (h | ⟨_, _, ⟨h, _⟩, _⟩)
    case inl => cases h
    case inr => simp [h, Event.isContent] at hc
  case element => simp [Ends, Item.events]

mutual

theorem Item.eq_of_events_append {es fs : List Located} :
    (i j : Item) → i.events ++ es = j.events ++ fs → i = j ∧ es = fs
  | .content _ hi _, .content .., h => by
    simpa [Item.events] using h
  | .content e hi _, .element .., h => by
    simp only [Item.events, List.cons_append, List.nil_append, List.cons.injEq, Prod.mk.injEq] at h
    simp [h.left.left, Event.isContent] at hi
  | .element .., .content e hj _, h => by
    simp only [Item.events, List.cons_append, List.nil_append, List.cons.injEq, Prod.mk.injEq] at h
    simp [← h.left.left, Event.isContent] at hj
  | .element _ _ is, .element _ _ js, h => by
    simp only [Item.events, List.cons_append, List.append_assoc, List.nil_append, List.cons.injEq,
      Prod.mk.injEq, Event.enter.injEq] at h
    have ⟨⟨ht, hs⟩, h⟩ := h
    have ⟨hi, he⟩ := eq_of_eventsOf_append is js .leave .leave h
    simp_all

theorem eq_of_eventsOf_append {es fs : List Located} :
    (is js : List Item) → Ends es → Ends fs → eventsOf is ++ es = eventsOf js ++ fs →
      is = js ∧ es = fs
  | [], [], _, _, h => ⟨rfl, h⟩
  | [], j :: js, he, _, h => by
    simp only [eventsOf, List.nil_append, List.append_assoc] at h
    exact absurd (h ▸ he) j.not_ends
  | i :: is, [], _, hf, h => by
    simp only [eventsOf, List.nil_append, List.append_assoc] at h
    exact absurd (h ▸ hf) i.not_ends
  | i :: is, j :: js, he, hf, h => by
    simp only [eventsOf, List.append_assoc] at h
    have ⟨hi, h⟩ := Item.eq_of_events_append i j h
    have ⟨his, h⟩ := eq_of_eventsOf_append is js he hf h
    exact ⟨by rw [hi, his], h⟩

end

-- A stream has at most one balanced reading.
theorem eventsOf_injective (h : eventsOf is = eventsOf js) : is = js := by
  have h : eventsOf is ++ [] = eventsOf js ++ [] := by rw [h]
  exact (eq_of_eventsOf_append is js (.inl rfl) (.inl rfl) h).left

end Unique

end ProposalLint.Markdown
