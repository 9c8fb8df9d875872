import DartRoutes.Route.Table

/-!
# Bracket depth

The tokens of a table counted by their brackets: an opening bracket leads one level deeper and a
closing bracket one level back. Skipping an element ends where the depth comes back to zero for the
first time, and gives no answer if it never does.
-/

namespace DartRoutes

namespace Token

/-- The opening brackets less the closing ones. -/
def balance (tokens : List Token) : Int :=
  tokens.countP (·.kind == .opening) - tokens.countP (·.kind == .closing)

def weight (token : Token) : Int :=
  match token.kind with
  | .opening => 1
  | .closing => -1
  | _ => 0

theorem balance_nil : balance [] = 0 := rfl

theorem balance_cons (token : Token) (rest : List Token) :
    balance (token :: rest) = weight token + balance rest := by
  rw [balance, balance, weight, List.countP_cons, List.countP_cons]
  cases token.kind with
  | opening =>
      simp
      omega
  | closing =>
      simp
      omega
  | _ => simp

theorem balance_append (front back : List Token) :
    balance (front ++ back) = balance front + balance back := by
  rw [balance, balance, balance, List.countP_append, List.countP_append]
  omega

theorem weight_opening {token : Token} (opening : token.kind = .opening) : weight token = 1 := by
  rw [weight, opening]

theorem weight_closing {token : Token} (closing : token.kind = .closing) : weight token = -1 := by
  rw [weight, closing]

theorem weight_other {token : Token} (notOpening : token.kind ≠ .opening)
    (notClosing : token.kind ≠ .closing) : weight token = 0 := by
  rw [weight]
  split
  · contradiction
  · contradiction
  · rfl

theorem neg_one_le_weight (token : Token) : -1 ≤ weight token := by
  rw [weight]
  split <;> decide

/-- The tokens lead from a depth to a last one, and the depth is not zero before their end. -/
structure Reaches (depth : Int) (tokens : List Token) (last : Int) : Prop where
  ends : depth + balance tokens = last
  inside : ∀ front back, front ++ back = tokens → back ≠ [] → 0 < depth + balance front

namespace Reaches

variable {depth last : Int} {token : Token} {tokens rest : List Token}

theorem nil (depth : Int) : Reaches depth [] depth where
  ends := Int.add_zero depth
  inside := by
    intro front back joined back_ne
    exact absurd (List.append_eq_nil_iff.mp joined).2 back_ne

theorem cons (positive : 0 < depth) (reaches : Reaches (depth + weight token) rest last) :
    Reaches depth (token :: rest) last where
  ends := by
    rw [balance_cons, ← Int.add_assoc]
    exact reaches.ends
  inside := by
    intro front back joined back_ne
    cases front with
    | nil =>
        rw [balance_nil]
        omega
    | cons first front =>
        obtain ⟨rfl, joinedRest⟩ := List.cons_eq_cons.mp joined
        have behind := reaches.inside front back joinedRest back_ne
        rw [balance_cons]
        omega

theorem of_cons (reaches : Reaches depth (token :: rest) last) :
    Reaches (depth + weight token) rest last where
  ends := by
    rw [Int.add_assoc, ← balance_cons]
    exact reaches.ends
  inside := by
    intro front back joined back_ne
    have behind := reaches.inside (token :: front) back (congrArg (token :: ·) joined) back_ne
    rw [balance_cons] at behind
    omega

theorem positive_of_cons (reaches : Reaches depth (token :: rest) last) : 0 < depth := by
  have positive := reaches.inside [] (token :: rest) rfl (List.cons_ne_nil _ _)
  rw [balance_nil] at positive
  omega

theorem eq_nil (reaches : Reaches 0 tokens last) : tokens = [] := by
  cases tokens with
  | nil => rfl
  | cons token rest => exact absurd reaches.positive_of_cons (Int.lt_irrefl 0)

theorem cons_other (notOpening : token.kind ≠ .opening) (notClosing : token.kind ≠ .closing)
    (positive : 0 < depth) (reaches : Reaches depth rest last) :
    Reaches depth (token :: rest) last := by
  apply cons positive
  rw [weight_other notOpening notClosing, Int.add_zero]
  exact reaches

theorem append_other {front : List Token}
    (other : ∀ token ∈ front, token.kind ≠ .opening ∧ token.kind ≠ .closing)
    (positive : 0 < depth) (reaches : Reaches depth rest last) :
    Reaches depth (front ++ rest) last := by
  induction front with
  | nil => exact reaches
  | cons token front induction =>
      obtain ⟨first, others⟩ := List.forall_mem_cons.mp other
      exact cons_other first.1 first.2 positive (induction others)

theorem append {middle : Int} (first : Reaches depth tokens middle) (positive : 0 < middle)
    (second : Reaches middle rest last) : Reaches depth (tokens ++ rest) last where
  ends := by
    rw [balance_append, ← Int.add_assoc, first.ends]
    exact second.ends
  inside := by
    intro front back joined back_ne
    rcases List.append_eq_append_iff.mp joined with ⟨more, rfl, rfl⟩ | ⟨more, rfl, rfl⟩
    · by_cases empty : more = []
      · have level := first.ends
        rw [empty, List.append_nil] at level
        rwa [level]
      · exact first.inside front more rfl empty
    · have behind := second.inside more back rfl back_ne
      rw [balance_append, ← Int.add_assoc, first.ends]
      exact behind

theorem raise {further : Int} (reaches : Reaches depth tokens last) (further_nonneg : 0 ≤ further) :
    Reaches (depth + further) tokens (last + further) where
  ends := by
    have level := reaches.ends
    omega
  inside := by
    intro front back joined back_ne
    have behind := reaches.inside front back joined back_ne
    omega

/-- A list that closes its own bracket keeps the depth. -/
theorem append_list {inside : List Token} (opening : token.kind = .opening)
    (closes : Reaches 1 inside 0) (positive : 0 < depth) (reaches : Reaches depth rest last) :
    Reaches depth (token :: inside ++ rest) last := by
  have raised := closes.raise (Int.le_of_lt positive)
  rw [Int.zero_add] at raised
  apply cons positive
  rw [weight_opening opening, Int.add_comm]
  exact raised.append positive reaches

/-- Tokens that never close their outermost bracket do not start with tokens that do. -/
theorem not_closes {front behind : List Token} (stays : Reaches depth tokens last)
    (above : 0 < last) (joined : front ++ behind = tokens) : ¬ Reaches depth front 0 := by
  intro closes
  have level := closes.ends
  by_cases empty : behind = []
  · rw [empty, List.append_nil] at joined
    have ends := stays.ends
    rw [← joined] at ends
    omega
  · have inside := stays.inside front behind joined empty
    omega

theorem unique {other behind otherBehind : List Token} (left : Reaches depth tokens 0)
    (right : Reaches depth other 0) (joined : tokens ++ behind = other ++ otherBehind) :
    tokens = other := by
  rcases List.append_eq_append_iff.mp joined with ⟨middle, rfl, rfl⟩ | ⟨middle, rfl, rfl⟩
  · by_cases empty : middle = []
    · rw [empty, List.append_nil]
    · have before := right.inside tokens middle rfl empty
      have level := left.ends
      omega
  · by_cases empty : middle = []
    · rw [empty, List.append_nil]
    · have before := left.inside other middle rfl empty
      have level := right.ends
      omega

/-- The depth comes to zero behind some of the tokens, or stays above it. -/
theorem closes_or_stays (positive : 0 < depth) (tokens : List Token) :
    (∃ inside behind, inside ++ behind = tokens ∧ Reaches depth inside 0) ∨
      ∃ last, 0 < last ∧ Reaches depth tokens last := by
  induction tokens generalizing depth with
  | nil => exact .inr ⟨depth, positive, nil depth⟩
  | cons token rest induction =>
      by_cases zero : depth + weight token = 0
      · have single : Reaches depth [token] 0 := by
          apply cons positive
          rw [zero]
          exact nil 0
        exact .inl ⟨[token], rest, rfl, single⟩
      · have bound := neg_one_le_weight token
        have further : 0 < depth + weight token := by omega
        rcases induction further with ⟨inside, behind, rfl, closes⟩ | ⟨last, above, stays⟩
        · exact .inl ⟨token :: inside, behind, rfl, cons positive closes⟩
        · exact .inr ⟨last, above, cons positive stays⟩

end Reaches

end Token

namespace Element

open Token

variable {depth : Nat} {token : Token} {tokens rest : List Token}

theorem skip?_opening (opening : token.kind = .opening) :
    skip? depth (token :: rest) = skip? (depth + 1) rest := by
  simp [skip?, opening]

theorem skip?_closing_last (closing : token.kind = .closing) :
    skip? 1 (token :: rest) = some rest := by
  simp [skip?, closing]

theorem skip?_closing (closing : token.kind = .closing) :
    skip? (depth + 2) (token :: rest) = skip? (depth + 1) rest := by
  simp [skip?, closing]

theorem skip?_other (notOpening : token.kind ≠ .opening) (notClosing : token.kind ≠ .closing) :
    skip? (depth + 1) (token :: rest) = skip? (depth + 1) rest := by
  cases kind : token.kind with
  | opening => contradiction
  | closing => contradiction
  | _ => simp [skip?, kind]

theorem skip?_of_closes {inside : List Token} (closes : Reaches (depth + 1) inside 0)
    (behind : List Token) : skip? (depth + 1) (inside ++ behind) = some behind := by
  induction inside generalizing depth with
  | nil =>
      have level := closes.ends
      rw [balance_nil] at level
      omega
  | cons token inside induction =>
      have further := closes.of_cons
      rw [List.cons_append]
      by_cases opening : token.kind = .opening
      · rw [weight_opening opening] at further
        rw [skip?_opening opening]
        exact induction further
      · by_cases closing : token.kind = .closing
        · rw [weight_closing closing] at further
          cases depth with
          | zero =>
              rw [further.eq_nil, skip?_closing_last closing]
              rfl
          | succ depth =>
              rw [skip?_closing closing]
              apply induction
              rwa [Int.natCast_succ, Int.add_neg_cancel_right] at further
        · rw [weight_other opening closing, Int.add_zero] at further
          rw [skip?_other opening closing]
          exact induction further

theorem skip?_of_stays {last : Int} (above : 0 < last) (stays : Reaches (depth + 1) tokens last) :
    skip? (depth + 1) tokens = none := by
  induction tokens generalizing depth with
  | nil => rfl
  | cons token tokens induction =>
      have further := stays.of_cons
      by_cases opening : token.kind = .opening
      · rw [weight_opening opening] at further
        rw [skip?_opening opening]
        exact induction further
      · by_cases closing : token.kind = .closing
        · rw [weight_closing closing] at further
          cases depth with
          | zero =>
              obtain rfl := further.eq_nil
              have level := further.ends
              rw [balance_nil] at level
              omega
          | succ depth =>
              rw [skip?_closing closing]
              apply induction
              rwa [Int.natCast_succ, Int.add_neg_cancel_right] at further
        · rw [weight_other opening closing, Int.add_zero] at further
          rw [skip?_other opening closing]
          exact induction further

end Element

end DartRoutes
