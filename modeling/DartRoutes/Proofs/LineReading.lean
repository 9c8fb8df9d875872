import DartRoutes.Text.Lines

/-!
# Reading lines

Readers that take lines away from the front of a list of lines. A reader is judged by the lines that
it takes: `Reads reader lines value` says that it takes exactly these lines, whatever stands behind
them, and gives the value. So the sections of a text are read one after the other.
-/

namespace DartRoutes

/-- Reads a value from the first lines, and leaves the lines behind them. -/
abbrev LineReader (α : Type) :=
  StateT (List Text) Option α

namespace LineReader

variable {α β : Type}

/-- The next line, if it has a meaning. -/
def line (meaning : Text → Option α) : LineReader α
  | [] => none
  | line :: rest => (·, rest) <$> meaning line

/-- Skips the lines up to the given one, and that line too. -/
def skipPast (opening : Text) : LineReader Unit
  | [] => none
  | line :: rest => if line = opening then some ((), rest) else skipPast opening rest

/-- Reads items up to a closing line, which is taken too. -/
def itemsUntil (closing : Text) (item : LineReader α) : LineReader (List α)
  | [] => none
  | line :: rest =>
      if line = closing then some ([], rest)
      else
        match item (line :: rest) with
        | none => none
        | some (value, behind) =>
            if behind.length ≤ rest.length then
              Prod.map (value :: ·) id <$> itemsUntil closing item behind
            else none
termination_by lines => lines.length

/-- The reader takes exactly these lines and gives the value. -/
def Reads (reader : LineReader α) (lines : List Text) (value : α) : Prop :=
  ∀ rest, reader (lines ++ rest) = some (value, rest)

namespace Reads

theorem pure (value : α) : Reads (Pure.pure value) [] value :=
  fun _ => rfl

theorem bind {reader : LineReader α} {next : α → LineReader β} {left right : List Text}
    {value : α} {result : β} (first : Reads reader left value)
    (second : Reads (next value) right result) :
    Reads (reader >>= next) (left ++ right) result := by
  intro rest
  rw [List.append_assoc]
  change (reader (left ++ (right ++ rest))).bind (fun found => next found.1 found.2) = _
  rw [first (right ++ rest)]
  exact second rest

theorem step {reader : LineReader α} {next : α → LineReader β} {text : Text} {lines : List Text}
    {value : α} {result : β} (first : Reads reader [text] value)
    (second : Reads (next value) lines result) : Reads (reader >>= next) (text :: lines) result :=
  first.bind second

theorem lift {answer : Option α} {value : α} (found : answer = some value) :
    Reads (liftM answer) [] value := by
  subst found
  exact fun _ => rfl

theorem line {meaning : Text → Option α} {text : Text} {value : α}
    (means : meaning text = some value) : Reads (line meaning) [text] value := by
  intro rest
  change (·, rest) <$> meaning text = _
  rw [means]
  rfl

theorem skipPast {opening : Text} {before : List Text} (foreign : opening ∉ before) :
    Reads (skipPast opening) (before ++ [opening]) () := by
  intro rest
  induction before with
  | nil => exact if_pos rfl
  | cons text before induction =>
      rw [List.mem_cons, not_or] at foreign
      exact (if_neg (Ne.symm foreign.1)).trans (induction foreign.2)

theorem skip (opening : Text) : Reads (LineReader.skipPast opening) [opening] () :=
  skipPast List.not_mem_nil

/-- Items are read one by one if none of them starts like the closing line. -/
theorem itemsUntil {closing : Text} {item : LineReader α} {write : α → List Text}
    {items : List α} (reads : ∀ value ∈ items, Reads item (write value) value)
    (starts : ∀ value ∈ items, ∃ first more, write value = first :: more ∧ first ≠ closing) :
    Reads (itemsUntil closing item) (items.flatMap write ++ [closing]) items := by
  intro rest
  induction items with
  | nil =>
      change LineReader.itemsUntil closing item (closing :: rest) = _
      rw [LineReader.itemsUntil, if_pos rfl]
  | cons value items induction =>
      obtain ⟨firstReads, othersRead⟩ := List.forall_mem_cons.mp reads
      obtain ⟨⟨first, more, written, notClosing⟩, othersStart⟩ := List.forall_mem_cons.mp starts
      have found := firstReads (items.flatMap write ++ [closing] ++ rest)
      have others := induction othersRead othersStart
      have shorter : (items.flatMap write ++ [closing] ++ rest).length ≤
          (more ++ (items.flatMap write ++ [closing] ++ rest)).length :=
        (List.suffix_append more _).length_le
      rw [List.flatMap_cons, List.append_assoc, List.append_assoc,
        ← List.append_assoc _ [closing] rest]
      rw [written, List.cons_append] at found ⊢
      rw [LineReader.itemsUntil, if_neg notClosing, found]
      simp only [if_pos shorter, others]
      rfl

end Reads

end LineReader

end DartRoutes
