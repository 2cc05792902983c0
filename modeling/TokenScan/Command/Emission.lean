import TokenScan.Event
/-!
# What a command gives out

While it runs, a command writes output, reports problems and tells of events. All three are
emissions, kept in one list in the order in which they come about; `output` and `problems` are the
texts of the first two kinds, and `events` picks the third.
-/

namespace TokenScan

/-- Something that a command gives out. -/
inductive Emission where
  /-- A piece of output. -/
  | output (text : String)
  /-- The report of a problem. -/
  | problem (text : String)
  /-- An event. -/
  | event (event : Event)
  deriving DecidableEq, Repr

namespace Emission

/-- The text of an emission that is output. -/
def outputText : Emission → String
  | output text => text
  | _ => ""

/-- The text of an emission that reports a problem. -/
def problemText : Emission → String
  | problem text => text
  | _ => ""

/-- The event of an emission, if it is one. -/
def event? : Emission → Option Event
  | event e => some e
  | _ => none

/-- The output of a command. -/
def outputOf (es : List Emission) : String := String.join (es.map outputText)

/-- The reports of a command. -/
def problemsOf (es : List Emission) : String := String.join (es.map problemText)

/-- The events of a command. -/
def eventsOf (es : List Emission) : List Event := es.filterMap event?

/-- What is shown of an emission beside the output: reports, and events from some level on. -/
def shown (least : Level) : Emission → String
  | output _ => ""
  | problem text => text
  | event e => if least.rank ≤ e.level.rank then e.text ++ "\n" else ""

/-- What is shown of emissions beside the output. -/
def shownOf (least : Level) (es : List Emission) : String := String.join (es.map (shown least))

/-! ### Emissions in turn -/

section Turns

variable {text : Emission → String}

theorem join_map_append (text : Emission → String) (es fs : List Emission) :
    String.join ((es ++ fs).map text) = String.join (es.map text) ++ String.join (fs.map text) := by
  rw [List.map_append, String.join_append]

/-- Where events have no text, nothing is seen of them. -/
theorem join_map_event (htext : ∀ e, text (event e) = "") (es : List Event) :
    String.join ((es.map event).map text) = "" := by
  induction es with
  | nil => rfl
  | cons e es ih =>
    rw [List.map_cons, List.map_cons, String.join_cons, ih, htext, String.append_empty]

/-- What is given out for one thing after the other is seen one after the other. -/
theorem join_map_flatMap {α : Type} (text : Emission → String) (f : α → List Emission)
    (xs : List α) : String.join ((xs.flatMap f).map text) =
      String.join (xs.map fun x ↦ String.join ((f x).map text)) := by
  induction xs with
  | nil => rfl
  | cons x xs ih =>
    rw [List.flatMap_cons, join_map_append, ih, List.map_cons, String.join_cons]

/-- What is given out between events is all that is seen. -/
theorem join_map_between (htext : ∀ e, text (event e) = "") (before after : List Event)
    (es : List Emission) :
    String.join ((before.map event ++ es ++ after.map event).map text) =
      String.join (es.map text) := by
  rw [join_map_append, join_map_append, join_map_event htext, join_map_event htext,
    String.empty_append, String.append_empty]

end Turns

end Emission

end TokenScan
