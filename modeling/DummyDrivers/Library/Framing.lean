import Mathlib.Data.List.Chain
import Mathlib.Data.List.Infix

/-! Bodies framed by marker symbols that may also occur inside a body, as when data and
control words travel over one channel: which lists of bodies their encoding determines.
-/

namespace DummyDrivers.Framing

/-- A frame begins with `start` and ends with `stop` and `clear`. -/
structure Markers (Symbol : Type*) where
  start : Symbol
  stop : Symbol
  clear : Symbol
  start_ne_stop : start ≠ stop
  stop_ne_clear : stop ≠ clear

variable {Symbol : Type*} (markers : Markers Symbol)

def Markers.frame (body : List Symbol) : List Symbol :=
  markers.start :: body ++ [markers.stop, markers.clear]

def Markers.encode (bodies : List (List Symbol)) : List Symbol :=
  bodies.flatMap markers.frame

/-- What lies between two neighbouring bodies. -/
def Markers.boundary : List Symbol := [markers.stop, markers.clear, markers.start]

/-- The bodies that fit a channel with at most `limit` symbols in a body. -/
def Fits (limit : Nat) (bodies : List (List Symbol)) : Prop :=
  ∀ body ∈ bodies, body.length ≤ limit

/-- No other bodies that fit have the same encoding. -/
def Markers.Determined (limit : Nat) (bodies : List (List Symbol)) : Prop :=
  ∀ others, Fits limit others → markers.encode others = markers.encode bodies → others = bodies

/-- No body contains a boundary, and no two neighbours fit into one body together. -/
structure Markers.Unambiguous (limit : Nat) (bodies : List (List Symbol)) : Prop where
  noBoundary : ∀ body ∈ bodies, ¬ markers.boundary <:+: body
  wide : bodies.IsChain (fun body next => limit < body.length + next.length + 3)

@[simp] theorem Markers.encode_nil : markers.encode [] = [] := rfl

@[simp] theorem Markers.encode_cons (body : List Symbol) (bodies : List (List Symbol))
    : markers.encode (body :: bodies)
      = markers.start
        :: (body ++ (markers.stop :: markers.clear :: markers.encode bodies)) := by
  simp [Markers.encode, Markers.frame]

@[simp] theorem Markers.encode_append (bodies others : List (List Symbol))
    : markers.encode (bodies ++ others) = markers.encode bodies ++ markers.encode others := by
  simp [Markers.encode]

/-- A body with a boundary inside is encoded like the two bodies around it. -/
theorem Markers.encode_boundary (body next : List Symbol) (bodies : List (List Symbol))
    : markers.encode ((body ++ markers.boundary ++ next) :: bodies)
      = markers.encode (body :: next :: bodies) := by
  simp [Markers.boundary]

/-- What a longer body has in excess of a shorter one at the same place starts with a
boundary: the shorter one's end markers and the start of its neighbour.
-/
theorem Markers.excess {bodies others : List (List Symbol)} {extra : List Symbol}
    (same
      : markers.stop :: markers.clear :: markers.encode others
        = extra ++ (markers.stop :: markers.clear :: markers.encode bodies))
    : extra = [] ∨ ∃ rest, extra = markers.boundary ++ rest := by
  rcases extra with _ | ⟨first, _ | ⟨second, rest⟩⟩
  · exact .inl rfl
  · simp only [List.cons_append, List.nil_append, List.cons.injEq] at same
    exact absurd same.2.1.symm markers.stop_ne_clear
  · right
    simp only [List.cons_append, List.cons.injEq] at same
    obtain ⟨rfl, rfl, same⟩ := same
    rcases others with _ | ⟨other, others⟩
    · simp at same
    · rcases rest with _ | ⟨third, rest⟩
      · simp only [Markers.encode_cons, List.nil_append, List.cons.injEq] at same
        exact absurd same.1 markers.start_ne_stop
      · simp only [Markers.encode_cons, List.cons_append, List.cons.injEq] at same
        obtain ⟨rfl, _⟩ := same
        exact ⟨rest, rfl⟩

/-- Unambiguous bodies are determined by their encoding, by induction on them: where
another list differs first, its body is cut at a boundary or joins two neighbours.
-/
theorem Markers.Unambiguous.determined {limit : Nat} {bodies : List (List Symbol)}
    (clear : markers.Unambiguous limit bodies)
    : markers.Determined limit bodies := by
  induction bodies with
  | nil =>
      intro others _ same
      cases others with
      | nil => rfl
      | cons => simp at same
  | cons body bodies ih =>
      intro others fits same
      rcases others with _ | ⟨other, others⟩
      · simp at same
      simp only [Markers.encode_cons, List.cons.injEq, true_and] at same
      have equal (tails
          : markers.stop :: markers.clear :: markers.encode others
            = markers.stop :: markers.clear :: markers.encode bodies)
          : others = bodies := by
        refine ih ⟨?_, clear.wide.tail⟩ others ?_ (by simpa using tails)
        · exact fun body member => clear.noBoundary body (List.mem_cons_of_mem _ member)
        · exact fun body member => fits body (List.mem_cons_of_mem _ member)
      rcases List.append_eq_append_iff.mp same with ⟨extra, rfl, tails⟩ | ⟨extra, rfl, tails⟩
      · -- The other body is shorter: it ends inside this one.
        rcases markers.excess tails with rfl | ⟨rest, rfl⟩
        · rw [equal (by simpa using tails), List.append_nil]
        · refine absurd ?_ (clear.noBoundary _ List.mem_cons_self)
          exact ⟨other, rest, by simp⟩
      · -- The other body is longer: it reaches into the neighbour.
        rcases markers.excess tails with rfl | ⟨rest, rfl⟩
        · rw [equal (by simpa using tails.symm), List.append_nil]
        · exfalso
          have tight := fits _ List.mem_cons_self
          rcases bodies with _ | ⟨next, bodies⟩
          · simp [Markers.boundary] at tails
          have wide := (List.isChain_cons_cons.mp clear.wide).1
          have noBoundary := clear.noBoundary next (by simp)
          simp only [Markers.boundary, Markers.encode_cons, List.cons_append, List.nil_append,
            List.cons.injEq, true_and] at tails
          simp only [Markers.boundary, List.length_append, List.length_cons, List.length_nil]
            at tight
          rcases List.append_eq_append_iff.mp tails with ⟨extra, rfl, _⟩ | ⟨extra, rfl, cut⟩
          · simp only [List.length_append] at tight
            omega
          · rcases markers.excess cut with rfl | ⟨more, rfl⟩
            · simp only [List.append_nil] at wide
              omega
            · exact noBoundary ⟨rest, more, by simp⟩

/-- Bodies that their encoding determines are unambiguous: a body with a boundary could be
cut there, and two narrow neighbours could be joined.
-/
theorem Markers.Determined.unambiguous {limit : Nat} {bodies : List (List Symbol)}
    (determined : markers.Determined limit bodies) (fits : Fits limit bodies)
    : markers.Unambiguous limit bodies := by
  constructor
  case noBoundary =>
    rintro body member ⟨first, second, rfl⟩
    obtain ⟨before, after, rfl⟩ := List.append_of_mem member
    have long := fits _ member
    simp only [List.length_append] at long
    have cut := determined (before ++ first :: second :: after) ?_ ?_
    · simpa using congrArg List.length cut
    · intro body inside
      simp only [List.mem_append, List.mem_cons] at inside
      rcases inside with early | rfl | rfl | late
      · exact fits body (by simp [early])
      · omega
      · omega
      · exact fits body (by simp [late])
    · rw [Markers.encode_append, Markers.encode_append, markers.encode_boundary]
  case wide =>
    rw [List.isChain_iff_forall_rel_of_append_cons_cons]
    rintro body next before after rfl
    by_contra narrow
    have joined := determined (before ++ (body ++ markers.boundary ++ next) :: after) ?_ ?_
    · simpa using congrArg List.length joined
    · intro other inside
      simp only [List.mem_append, List.mem_cons] at inside
      rcases inside with early | rfl | late
      · exact fits other (by simp [early])
      · simp only [Markers.boundary, List.length_append, List.length_cons, List.length_nil]
        omega
      · exact fits other (by simp [late])
    · rw [Markers.encode_append, Markers.encode_append, markers.encode_boundary]

/-- A list of fitting bodies is determined by its encoding exactly when it is unambiguous. -/
theorem Markers.determined_iff {limit : Nat} {bodies : List (List Symbol)}
    (fits : Fits limit bodies)
    : markers.Determined limit bodies ↔ markers.Unambiguous limit bodies :=
  ⟨fun determined => determined.unambiguous markers fits, fun clear => clear.determined markers⟩

end DummyDrivers.Framing
