import JobGate.Proofs.Requirement.Built
import JobGate.Requirement.Evaluation
/-! Selectors can be read back. No character at which a part of a selector ends is one of labels,
so the parts of a requirement and the requirements of a list are unique. -/
namespace JobGate.Requirement
open Label Text
variable {op : Operator} {values : List String} {us vs : List Char}

/- The parts of a selector. -/

def mark (op : Operator) : List Char := if op = .absent then ['!'] else []

def joinedChars (values : List String) : List Char := [','].intercalate (values.map String.toList)

def tail (op : Operator) (values : List String) : List Char :=
  match op with
  | .oneOf => ' ' :: 'i' :: 'n' :: ' ' :: '(' :: (joinedChars values ++ [')'])
  | .noneOf => ' ' :: 'n' :: 'o' :: 't' :: 'i' :: 'n' :: ' ' :: '(' :: (joinedChars values ++ [')'])
  | .present | .absent => []
  | .greater => '>' :: (values.headD "").toList
  | .less => '<' :: (values.headD "").toList

theorem toList_selector (r : Requirement) :
    r.selector.toList = mark r.operator ++ (r.key.toList ++ tail r.operator r.values) := by
  obtain ⟨key, op, values⟩ := r
  cases op with
  | oneOf | noneOf => simp [selector, mark, tail, joinedChars, String.toList_intercalate]
  | present | absent => simp [selector, mark, tail]
  | greater | less => simp [selector, mark, tail]

def Continues (cs : List Char) : Prop := ∀ c ∈ cs.head?, c = ','

theorem stops_of_continues (hu : Continues us) : Stops isLabelChar us := by
  intro c hc
  rw [hu c hc]
  decide

def readOperator : List Char → List Char → Operator
  | ['!'], _ => .absent
  | _, ' ' :: 'i' :: _ => .oneOf
  | _, ' ' :: _ => .noneOf
  | _, '>' :: _ => .greater
  | _, '<' :: _ => .less
  | _, _ => .present

theorem readOperator_tail (hu : Continues us) :
    readOperator (mark op) (tail op values ++ us) = op := by
  cases op with
  | oneOf | noneOf => rfl
  | absent => rfl
  | greater | less => rfl
  | present =>
    cases us with
    | nil => rfl
    | cons u us =>
      obtain rfl : u = ',' := hu u rfl
      rfl

theorem stops_tail (hu : Continues us) : Stops isLabelChar (tail op values ++ us) := by
  cases op with
  | oneOf | noneOf | greater | less =>
    rw [tail, List.cons_append, stops_cons]
    decide
  | present | absent => exact stops_of_continues hu

/- The values in the parentheses. -/

theorem comma_notMem_value {v : String} (h : IsValue v.toList) : ',' ∉ v.toList := by
  intro hc
  exact absurd (h.isLabelChar hc) (by decide)

def isInside (c : Char) : Bool := c ≠ ')'

theorem isInside_of_mem_joinedChars (h : ∀ v ∈ values, IsValue v.toList) {c : Char}
    (hc : c ∈ joinedChars values) : isInside c := by
  obtain rfl | ⟨p, hp, hc⟩ := mem_intercalate hc
  · decide
  · obtain ⟨v, hv, rfl⟩ := List.mem_map.1 hp
    have hlabel := (h v hv).isLabelChar hc
    by_contra hn
    obtain rfl : c = ')' := by simpa [isInside] using hn
    exact absurd hlabel (by decide)

theorem splitOn_joinedChars (h : ∀ v ∈ values, IsValue v.toList) (hn : values ≠ []) :
    (joinedChars values).splitOn ',' = values.map String.toList := by
  apply List.splitOn_intercalate
  · intro p hp
    obtain ⟨v, hv, rfl⟩ := List.mem_map.1 hp
    exact comma_notMem_value (h v hv)
  · simpa using hn

theorem values_unique {values' : List String} (h : ∀ v ∈ values, IsValue v.toList)
    (h' : ∀ v ∈ values', IsValue v.toList) (hn : values ≠ []) (hn' : values' ≠ [])
    (he : joinedChars values ++ ')' :: us = joinedChars values' ++ ')' :: vs) :
    values = values' ∧ us = vs := by
  obtain ⟨hj, hrest⟩ := run_unique (fun c => isInside_of_mem_joinedChars h)
    (fun c => isInside_of_mem_joinedChars h') (by simp [isInside]) (by simp [isInside]) he
  have hsplit := splitOn_joinedChars h hn
  rw [hj, splitOn_joinedChars h' hn'] at hsplit
  have hinj : Function.Injective String.toList := fun a b hab => String.toList_inj.1 hab
  exact ⟨(List.map_injective_iff.2 hinj hsplit).symm, (List.cons.inj hrest).2⟩

/- One requirement. -/

theorem tail_unique {key : String} {values' : List String} (h : Accepted key op values)
    (h' : Accepted key op values') (hu : Continues us) (hv : Continues vs)
    (he : tail op values ++ us = tail op values' ++ vs) : values = values' ∧ us = vs := by
  have harity := h.arity
  have harity' := h'.arity
  cases op with
  | oneOf | noneOf =>
    -- without a value the parentheses would read like those around one empty value
    have hn : values ≠ [] := List.ne_nil_of_length_pos (Nat.pos_of_ne_zero harity)
    have hn' : values' ≠ [] := List.ne_nil_of_length_pos (Nat.pos_of_ne_zero harity')
    apply values_unique h.values h'.values hn hn'
    simpa [tail] using he
  | present | absent =>
    obtain rfl := List.length_eq_zero_iff.1 harity
    obtain rfl := List.length_eq_zero_iff.1 harity'
    exact ⟨rfl, he⟩
  | greater | less =>
    obtain ⟨v, rfl⟩ := List.length_eq_one_iff.1 harity
    obtain ⟨v', rfl⟩ := List.length_eq_one_iff.1 harity'
    simp only [tail, List.headD_cons, List.cons_append, List.cons.injEq, true_and] at he
    have hrun := run_unique (fun c => (h.values v (by simp)).isLabelChar)
      (fun c => (h'.values v' (by simp)).isLabelChar) (stops_of_continues hu)
      (stops_of_continues hv) he
    obtain ⟨hvalue, rfl⟩ := hrun
    rw [String.toList_inj] at hvalue
    exact ⟨by rw [hvalue], rfl⟩

theorem eq_bang_of_mem_mark {c : Char} (h : c ∈ mark op) : c = '!' := by
  unfold mark at h
  split at h
  · simpa using h
  · cases h

theorem stops_key {key : List Char} (h : IsKey key) : Stops (· = '!') (key ++ us) := by
  cases key with
  | nil => exact absurd rfl h.ne_nil
  | cons c cs =>
    have hlabel : isLabelChar c := h.isLabelChar (by simp)
    rw [List.cons_append, stops_cons]
    intro he
    obtain rfl : c = '!' := by simpa using he
    exact absurd hlabel (by decide)

/-- No other requirement has a selector that starts the same text. -/
theorem selector_append_unique {r s : Requirement} (hr : r.WellFormed) (hs : s.WellFormed)
    (hu : Continues us) (hv : Continues vs)
    (h : r.selector.toList ++ us = s.selector.toList ++ vs) : r = s ∧ us = vs := by
  rw [toList_selector, toList_selector] at h
  simp only [List.append_assoc] at h
  -- mark and key are runs of their characters, so they are cut off one after the other; what is
  -- left tells the operator only together with the mark
  obtain ⟨hmark, h⟩ := run_unique (fun c hc => by simpa using eq_bang_of_mem_mark hc)
    (fun c hc => by simpa using eq_bang_of_mem_mark hc) (stops_key hr.accepted.key)
    (stops_key hs.accepted.key) h
  obtain ⟨hkey, h⟩ := run_unique (fun c => hr.accepted.key.isLabelChar)
    (fun c => hs.accepted.key.isLabelChar) (stops_tail hu) (stops_tail hv) h
  have hop : r.operator = s.operator := calc
    r.operator = readOperator (mark r.operator) (tail r.operator r.values ++ us) :=
      (readOperator_tail hu).symm
    _ = readOperator (mark s.operator) (tail s.operator s.values ++ vs) := by rw [hmark, h]
    _ = s.operator := readOperator_tail hv
  obtain ⟨key, op, values⟩ := r
  obtain ⟨key', op', values'⟩ := s
  obtain rfl : op = op' := hop
  obtain rfl : key = key' := String.toList_inj.1 hkey
  obtain ⟨rfl, rfl⟩ := tail_unique hr.accepted hs.accepted hu hv h
  exact ⟨rfl, rfl⟩

theorem selector?_of_wellFormed {r : Requirement} (h : r.WellFormed) :
    r.selector? = .ok r.selector := by
  have harity := h.accepted.arity
  obtain ⟨key, op, values⟩ := r
  cases op with
  | oneOf | noneOf | present | absent => rfl
  | greater | less =>
    obtain ⟨v, rfl⟩ := List.length_eq_one_iff.1 harity
    rfl

/- Lists of requirements. -/

def following (rs : List Requirement) : List Char := rs.flatMap (fun r => ',' :: r.selector.toList)

theorem continues_following (rs : List Requirement) : Continues (following rs) := by
  cases rs with
  | nil => simp [Continues, following]
  | cons r rs => simp [Continues, following]

theorem toList_selectors (r : Requirement) (rs : List Requirement) :
    (",".intercalate ((r :: rs).map selector)).toList = r.selector.toList ++ following rs := by
  induction rs generalizing r with
  | nil => simp [following]
  | cons s rs ih =>
    rw [List.map_cons, List.map_cons, String.intercalate_cons_cons, ← List.map_cons,
      String.toList_append, ih s]
    simp [following]

theorem following_unique {rs ss : List Requirement} (hr : ∀ r ∈ rs, r.WellFormed)
    (hs : ∀ s ∈ ss, s.WellFormed) (h : following rs = following ss) : rs = ss := by
  induction rs generalizing ss with
  | nil =>
    cases ss with
    | nil => rfl
    | cons s ss => simp [following] at h
  | cons r rs ih =>
    cases ss with
    | nil => simp [following] at h
    | cons s ss =>
      rw [List.forall_mem_cons] at hr hs
      have htexts : r.selector.toList ++ following rs = s.selector.toList ++ following ss := by
        simpa [following] using h
      obtain ⟨rfl, hrest⟩ := selector_append_unique hr.1 hs.1 (continues_following rs)
        (continues_following ss) htexts
      rw [ih hr.2 hs.2 hrest]

theorem selector_ne_nil {r : Requirement} (h : r.WellFormed) : r.selector.toList ≠ [] := by
  rw [toList_selector]
  simp [h.accepted.key.ne_nil]

theorem selectors_unique {rs ss : List Requirement} (hr : ∀ r ∈ rs, r.WellFormed)
    (hs : ∀ s ∈ ss, s.WellFormed)
    (h : ",".intercalate (rs.map selector) = ",".intercalate (ss.map selector)) : rs = ss := by
  rw [← String.toList_inj] at h
  cases rs with
  | nil =>
    cases ss with
    | nil => rfl
    | cons s ss =>
      rw [toList_selectors] at h
      have hnil : s.selector.toList = [] := (List.append_eq_nil_iff.1 h.symm).1
      exact absurd hnil (selector_ne_nil (hs s (by simp)))
  | cons r rs =>
    cases ss with
    | nil =>
      rw [toList_selectors] at h
      have hnil : r.selector.toList = [] := (List.append_eq_nil_iff.1 h).1
      exact absurd hnil (selector_ne_nil (hr r (by simp)))
    | cons s ss =>
      rw [List.forall_mem_cons] at hr hs
      rw [toList_selectors, toList_selectors] at h
      obtain ⟨rfl, hrest⟩ := selector_append_unique hr.1 hs.1 (continues_following rs)
        (continues_following ss) h
      rw [following_unique hr.2 hs.2 hrest]

end JobGate.Requirement
