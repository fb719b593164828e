import HolderBond.Proofs.Json.RoundTrip

/-!
# Printed trees

The compact text of a tree is read as what becomes of the tree, number by number, and as nothing
else.  And it is the text of this tree only: where each token begins and ends can be told from the
text alone, so two trees that are printed alike are one.
-/

set_option autoImplicit false

namespace HolderBond.Json

open Scan

/-! ## What a printed tree is read as -/

theorem endsNumber_itemsChars (xs : List Json) (rest : Input) :
    EndsNumber (letters (itemsChars xs) ++ rest) := by
  cases xs <;> exact endsNumber_mark blank_nil (by decide) _

theorem endsNumber_membersChars (ms : List (String × Json)) (rest : Input) :
    EndsNumber (letters (membersChars ms) ++ rest) := by
  cases ms <;> exact endsNumber_mark blank_nil (by decide) _

theorem bare_chars (j : Json) (rest : Input) :
    bare (letters (chars j) ++ rest) = letters (chars j) ++ rest := by
  obtain ⟨c, cs, text, solid, -⟩ := spaced_start .compact 0 j
  rw [spaced_compact] at text
  rw [text]
  exact bare_of_solid _ solid

theorem not_ended_chars (j : Json) (rest more : Input) :
    bare (letters (chars j) ++ rest) ≠ .char ']' :: more := by
  obtain ⟨c, cs, text, solid, open_⟩ := spaced_start .compact 0 j
  rw [spaced_compact] at text
  rw [bare_chars, text]
  rintro ⟨⟩
  exact open_ rfl

theorem of_on_value_flat {j k : Json} {most : Nat} {rest left : Input}
    (written : WrittenValue j (chars j)) (flat : j.levels = 0) (settled : j.Settled)
    (ends : EndsNumber rest) (read : (value most).on (letters (chars j) ++ rest) = some (k, left)) :
    j.reread? = some k ∧ left = rest := by
  have known := on_value_of_written most rest written (flat ▸ Nat.zero_le most) ends
  cases known.symm.trans read
  exact ⟨settled, rfl⟩

theorem keep_printed_cases {item : Scan Json} {key : String} {seen entries : List (String × Json)}
    {input left : Input} (read : (keep item key seen).on (.char ':' :: input) = some (entries, left)) :
    ∃ w, item.on input = some (w, left) ∧ entries = (key, w) :: seen := by
  obtain ⟨body, w, start, read, rfl⟩ := keep_cases read
  cases start
  exact ⟨w, read, rfl⟩

mutual

theorem reread?_of_on_value : (j : Json) → (most : Nat) → {rest left : Input} → {k : Json} →
    EndsNumber rest → (value most).on (letters (chars j) ++ rest) = some (k, left) →
      j.reread? = some k ∧ left = rest
  | .null, _, _, _, _, ends, read => of_on_value_flat .null rfl rfl ends read
  | .bool true, _, _, _, _, ends, read => of_on_value_flat .yes rfl rfl ends read
  | .bool false, _, _, _, _, ends, read => of_on_value_flat .no rfl rfl ends read
  | .string s, _, _, _, _, ends, read =>
      of_on_value_flat (.string (writtenChars_flatMap s.toList)) rfl rfl ends read
  | .number n, most, rest, left, _, ends, read => by
      obtain ⟨c, others, text, begins⟩ := numberChars_start n
      rw [chars, text] at read
      obtain ⟨m, rfl, digits⟩ := number_of_on_value begins read
      have whole : Scan.number.on (letters (numberChars n) ++ rest) = some (m, left) := by
        rw [text]
        exact digits
      obtain ⟨written, same⟩ := reread?_of_on_number ends whole
      exact ⟨congrArg (Option.map _) (reread?_eq_some_iff.2 written), same⟩
  | .array [], most, rest, _, _, ends, read => by
      obtain ⟨deeper, ys, rfl, rfl, items⟩ := array_of_on_value read
      cases (on_items_ended rfl).symm.trans items
      exact ⟨rfl, rfl⟩
  | .array (x :: xs), most, rest, left, _, ends, read => by
      rw [chars, letters_append, List.append_assoc] at read
      obtain ⟨deeper, ys, rfl, rfl, items⟩ := array_of_on_value read
      obtain ⟨clock, items⟩ : ∃ clock, (itemsWithin (value deeper) clock true).on
          (letters (chars x) ++ (letters (itemsChars xs) ++ rest)) = some (ys, left) := ⟨_, items⟩
      cases itemsWithin_step items with
      | ended stop => exact absurd stop (not_ended_chars x _ _)
      | more goesOn itemRead later =>
          generalize mark : bare _ = text at goesOn
          cases goesOn with
          | first =>
              rw [← mark, bare_chars] at itemRead
              obtain ⟨first, rfl⟩ :=
                reread?_of_on_value x deeper (endsNumber_itemsChars xs rest) itemRead
              obtain ⟨items, same⟩ := rereadItems?_of_on_items xs deeper _ later
              exact ⟨reread?_array_eq_some_iff.2
                ⟨_, rereadItems?_cons_eq_some_iff.2 ⟨_, _, first, items, rfl⟩, rfl⟩, same⟩
  | .object [], most, rest, _, _, ends, read => by
      obtain ⟨deeper, ys, rfl, rfl, members⟩ := object_of_on_value read
      cases (on_members_ended .ended).symm.trans members
      exact ⟨rfl, rfl⟩
  | .object ((key, v) :: ms), most, rest, left, _, ends, read => by
      simp only [chars, stringChars, List.cons_append, List.append_assoc, letters_cons,
        letters_append, List.nil_append] at read
      obtain ⟨deeper, reversed, rfl, rfl, members⟩ := object_of_on_value read
      obtain ⟨clock, members⟩ : ∃ clock, (membersWithin (keep (value deeper)) clock true []).on
          (.char '"' :: (letters (key.toList.flatMap escapeChar) ++ .char '"' :: .char ':' ::
            (letters (chars v) ++ (letters (membersChars ms) ++ rest)))) = some (reversed, left) :=
        ⟨_, members⟩
      cases membersWithin_step members with
      | ended stop => cases stop
      | more goesOn named memberRead later =>
          cases goesOn with
          | first =>
              cases (on_stringBody (writtenChars_flatMap key.toList) _).symm.trans named
              obtain ⟨w, valueRead, rfl⟩ := keep_printed_cases memberRead
              obtain ⟨first, rfl⟩ :=
                reread?_of_on_value v deeper (endsNumber_membersChars ms rest) valueRead
              obtain ⟨ns, others, rfl, same⟩ := rereadMembers?_of_on_members ms deeper _ _ later
              refine ⟨reread?_object_eq_some_iff.2
                ⟨_, rereadMembers?_cons_eq_some_iff.2 ⟨_, _, first, others, rfl⟩, ?_⟩, same⟩
              simp

theorem rereadItems?_of_on_items : (xs : List Json) → (most : Nat) → (clock : Input) →
    {rest left : Input} → {ys : List Json} →
      (itemsWithin (value most) clock false).on (letters (itemsChars xs) ++ rest) =
        some (ys, left) → rereadItems? xs = some ys ∧ left = rest
  | [], most, clock, rest, _, _, read => by
      cases itemsWithin_step read with
      | ended stop =>
          cases stop
          exact ⟨rfl, rfl⟩
      | more goesOn => cases goesOn
  | x :: xs, most, clock, rest, _, _, read => by
      rw [itemsChars, List.cons_append, letters_cons, letters_append, List.cons_append,
        List.append_assoc] at read
      cases itemsWithin_step read with
      | ended stop => cases stop
      | more goesOn itemRead later =>
          cases goesOn with
          | comma start =>
              rw [← start, bare_chars] at itemRead
              obtain ⟨first, rfl⟩ :=
                reread?_of_on_value x most (endsNumber_itemsChars xs rest) itemRead
              obtain ⟨items, same⟩ := rereadItems?_of_on_items xs most _ later
              exact ⟨rereadItems?_cons_eq_some_iff.2 ⟨_, _, first, items, rfl⟩, same⟩

theorem rereadMembers?_of_on_members : (ms : List (String × Json)) → (most : Nat) →
    (clock : Input) → (seen : List (String × Json)) → {rest left : Input} →
      {entries : List (String × Json)} →
        (membersWithin (keep (value most)) clock false seen).on
            (letters (membersChars ms) ++ rest) = some (entries, left) →
          ∃ ns, rereadMembers? ms = some ns ∧ entries = ns.reverse ++ seen ∧ left = rest
  | [], most, clock, seen, rest, _, _, read => by
      cases membersWithin_step read with
      | ended stop =>
          cases stop
          exact ⟨[], rfl, rfl, rfl⟩
      | more goesOn => cases goesOn
  | (key, v) :: ms, most, clock, seen, rest, _, _, read => by
      simp only [membersChars, stringChars, List.cons_append, List.append_assoc, letters_cons,
        letters_append, List.nil_append] at read
      cases membersWithin_step read with
      | ended stop => cases stop
      | more goesOn named memberRead later =>
          cases goesOn with
          | comma start =>
              cases start
              cases (on_stringBody (writtenChars_flatMap key.toList) _).symm.trans named
              obtain ⟨w, valueRead, rfl⟩ := keep_printed_cases memberRead
              obtain ⟨first, rfl⟩ :=
                reread?_of_on_value v most (endsNumber_membersChars ms rest) valueRead
              obtain ⟨ns, others, rfl, same⟩ := rereadMembers?_of_on_members ms most _ _ later
              exact ⟨_, rereadMembers?_cons_eq_some_iff.2 ⟨_, _, first, others, rfl⟩, by simp,
                same⟩

end

/-! ## Telling printed trees apart -/

/-- The character that a printed tree begins with, one for all numbers and one for both truth
values. -/
def mark : Json → Char
  | .null => 'n'
  | .bool _ => 't'
  | .number _ => '0'
  | .string _ => '"'
  | .array _ => '['
  | .object _ => '\x7b'

theorem head_chars (j : Json) (rest : List Char) :
    (chars j ++ rest).head?.map
      (fun c => if beginsNumber (.char c) then '0' else if c = 'f' then 't' else c) =
        some j.mark := by
  cases j with
  | number n =>
      obtain ⟨c, others, text, begins⟩ := numberChars_start n
      rw [chars, text]
      simp [begins, mark]
  | bool b => cases b <;> rfl
  | array xs => cases xs <;> rfl
  | object ms => cases ms <;> rfl
  | _ => rfl

theorem mark_eq {a b : Json} {rest more : List Char}
    (same : chars a ++ rest = chars b ++ more) : a.mark = b.mark := by
  have first := head_chars a rest
  rw [same, head_chars b more] at first
  exact (Option.some.inj first).symm

theorem chars_append_ne (j : Json) (rest more : List Char) : chars j ++ rest ≠ ']' :: more := by
  intro same
  have first := head_chars j rest
  rw [same] at first
  cases j <;> simp [mark, beginsNumber, digit?] at first

theorem boolChars_append {x y : Bool} {rest more : List Char}
    (same : chars (.bool x) ++ rest = chars (.bool y) ++ more) : x = y ∧ rest = more := by
  cases x <;> cases y <;> simp [chars] at same ⊢ <;> exact same

theorem stringChars_append {s t : String} {rest more : List Char}
    (same : stringChars s ++ rest = stringChars t ++ more) : s = t ∧ rest = more := by
  have texts : s.toList.flatMap escapeChar ++ '"' :: rest =
      t.toList.flatMap escapeChar ++ '"' :: more := by
    simpa [stringChars] using same
  have left := on_stringBody (writtenChars_flatMap s.toList) (letters rest)
  have right := on_stringBody (writtenChars_flatMap t.toList) (letters more)
  rw [← letters_cons, ← letters_append, texts] at left
  rw [← letters_cons, ← letters_append, left, Option.some.injEq, Prod.mk.injEq] at right
  exact ⟨right.1, letters_injective right.2⟩

theorem ends_itemsChars (xs : List Json) (rest : List Char) :
    EndsNumber (letters (itemsChars xs ++ rest)) := by
  rw [letters_append]
  exact endsNumber_itemsChars xs _

theorem ends_membersChars (ms : List (String × Json)) (rest : List Char) :
    EndsNumber (letters (membersChars ms ++ rest)) := by
  rw [letters_append]
  exact endsNumber_membersChars ms _

mutual

theorem chars_append : (a b : Json) → {rest more : List Char} → EndsNumber (letters rest) →
    EndsNumber (letters more) → chars a ++ rest = chars b ++ more → a = b ∧ rest = more
  | .null, b, _, _, _, _, same => by
      cases b with
      | null => exact ⟨rfl, List.append_cancel_left same⟩
      | _ => exact absurd (mark_eq same) (by simp [mark])
  | .bool x, b, _, _, _, _, same => by
      cases b with
      | bool y =>
          obtain ⟨rfl, left⟩ := boolChars_append same
          exact ⟨rfl, left⟩
      | _ => exact absurd (mark_eq same) (by simp [mark])
  | .number n, b, _, _, ends, stops, same => by
      cases b with
      | number m =>
          obtain ⟨rfl, left⟩ := numberChars_append ends stops same
          exact ⟨rfl, left⟩
      | _ => exact absurd (mark_eq same) (by simp [mark])
  | .string s, b, _, _, _, _, same => by
      cases b with
      | string t =>
          obtain ⟨rfl, left⟩ := stringChars_append same
          exact ⟨rfl, left⟩
      | _ => exact absurd (mark_eq same) (by simp [mark])
  | .array [], b, rest, more, _, _, same => by
      cases b with
      | array ys =>
          cases ys with
          | nil => exact ⟨rfl, List.append_cancel_left same⟩
          | cons y ys =>
              simp only [chars, List.cons_append, List.append_assoc, List.cons.injEq] at same
              exact absurd same.2.symm (chars_append_ne y _ _)
      | _ => exact absurd (mark_eq same) (by simp [mark])
  | .array (x :: xs), b, rest, more, _, _, same => by
      cases b with
      | array ys =>
          cases ys with
          | nil =>
              simp only [chars, List.cons_append, List.append_assoc, List.cons.injEq] at same
              exact absurd same.2 (chars_append_ne x _ _)
          | cons y ys =>
              simp only [chars, List.cons_append, List.append_assoc, List.cons.injEq] at same
              obtain ⟨rfl, left⟩ :=
                chars_append x y (ends_itemsChars xs rest) (ends_itemsChars ys more) same.2
              obtain ⟨rfl, last⟩ := itemsChars_append xs ys left
              exact ⟨rfl, last⟩
      | _ => exact absurd (mark_eq same) (by simp [mark])
  | .object [], b, rest, more, _, _, same => by
      cases b with
      | object ns =>
          cases ns with
          | nil => exact ⟨rfl, List.append_cancel_left same⟩
          | cons n ns => simp [chars, stringChars] at same
      | _ => exact absurd (mark_eq same) (by simp [mark])
  | .object ((key, v) :: ms), b, rest, more, _, _, same => by
      cases b with
      | object ns =>
          cases ns with
          | nil => simp [chars, stringChars] at same
          | cons n ns =>
              simp only [chars, List.cons_append, List.append_assoc, List.cons.injEq] at same
              obtain ⟨rfl, named⟩ := stringChars_append same.2
              obtain ⟨rfl, left⟩ := chars_append v n.2 (ends_membersChars ms rest)
                (ends_membersChars ns more) (List.cons.inj named).2
              obtain ⟨rfl, last⟩ := membersChars_append ms ns left
              exact ⟨rfl, last⟩
      | _ => exact absurd (mark_eq same) (by simp [mark])

theorem itemsChars_append : (xs ys : List Json) → {rest more : List Char} →
    itemsChars xs ++ rest = itemsChars ys ++ more → xs = ys ∧ rest = more
  | [], [], _, _, same => ⟨rfl, List.append_cancel_left same⟩
  | [], _ :: _, _, _, same => by cases same
  | _ :: _, [], _, _, same => by cases same
  | x :: xs, y :: ys, rest, more, same => by
      simp only [itemsChars, List.cons_append, List.append_assoc, List.cons.injEq] at same
      obtain ⟨rfl, left⟩ :=
        chars_append x y (ends_itemsChars xs rest) (ends_itemsChars ys more) same.2
      obtain ⟨rfl, last⟩ := itemsChars_append xs ys left
      exact ⟨rfl, last⟩

theorem membersChars_append : (ms ns : List (String × Json)) → {rest more : List Char} →
    membersChars ms ++ rest = membersChars ns ++ more → ms = ns ∧ rest = more
  | [], [], _, _, same => ⟨rfl, List.append_cancel_left same⟩
  | [], _ :: _, _, _, same => by cases same
  | _ :: _, [], _, _, same => by cases same
  | (key, v) :: ms, n :: ns, rest, more, same => by
      simp only [membersChars, List.cons_append, List.append_assoc, List.cons.injEq] at same
      obtain ⟨rfl, named⟩ := stringChars_append same.2
      obtain ⟨rfl, left⟩ := chars_append v n.2 (ends_membersChars ms rest)
        (ends_membersChars ns more) (List.cons.inj named).2
      obtain ⟨rfl, last⟩ := membersChars_append ms ns left
      exact ⟨rfl, last⟩

end

/-- A tree can be told from the text that is printed for it, however deep it is. -/
theorem render_injective {q r : Json} (same : q.render = r.render) : q = r := by
  have texts : chars q ++ [] = chars r ++ [] := by
    rw [List.append_nil, List.append_nil]
    exact String.ofList_inj.1 same
  exact (@chars_append q r [] [] endsNumber_nil endsNumber_nil texts).1

end HolderBond.Json
