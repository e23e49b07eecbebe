import Storlets.Library.JsonCut

set_option autoImplicit false

/-!
# Texts that nest too deep

Where `loads` gives no value, the scanner has met an error in the text or a container that
no level of the stack is left for. The interpreter raises a `RecursionError` for the second.
-/

namespace Json

def itemsExhaust (value : Text → Option (Json × Text)) (exhausts : Text → Bool) :
    Nat → Text → Bool
  | 0, _ => false
  | fuel + 1, text =>
      if exhausts (skipSpace text) then true
      else match value (skipSpace text) with
        | none => false
        | some (_, rest) =>
            match skipSpace rest with
            | ',' :: rest => itemsExhaust value exhausts fuel rest
            | _ => false

def membersExhaust (value : Text → Option (Json × Text)) (exhausts : Text → Bool) :
    Nat → Text → Bool
  | 0, _ => false
  | fuel + 1, text =>
      match skipSpace text with
      | '"' :: rest =>
          match scanString rest with
          | none => false
          | some (_, rest) =>
              match skipSpace rest with
              | ':' :: rest =>
                  if exhausts (skipSpace rest) then true
                  else match value (skipSpace rest) with
                    | none => false
                    | some (_, rest) =>
                        match skipSpace rest with
                        | ',' :: rest => membersExhaust value exhausts fuel rest
                        | _ => false
              | _ => false
      | _ => false

/-- `scan_once` comes to a container at the end of the stack. -/
def exhausts (limits : Limits) : Nat → Text → Bool
  | 0, '\x7b' :: _ => true
  | 0, '[' :: _ => true
  | depth + 1, '\x7b' :: rest =>
      match skipSpace rest with
      | '\x7d' :: _ => false
      | rest => membersExhaust (scanOnce limits depth) (exhausts limits depth) rest.length rest
  | depth + 1, '[' :: rest =>
      match skipSpace rest with
      | ']' :: _ => false
      | rest => itemsExhaust (scanOnce limits depth) (exhausts limits depth) rest.length rest
  | _, _ => false

example : exhausts ⟨1, 9⟩ 1 "[1, [".toList = true := by decide

theorem itemsExhaust_scan {value : Text → Option (Json × Text)} {exhausts : Text → Bool}
    (stops : ∀ text, exhausts text = true → value text = none) (fuel : Nat) (text : Text)
    (deep : itemsExhaust value exhausts fuel text = true) : scanItems value fuel text = none := by
  induction fuel generalizing text with
  | zero => rfl
  | succ fuel ih =>
    unfold itemsExhaust at deep
    unfold scanItems
    split at deep
    · next here => rw [stops _ here]
    · rcases read : value (skipSpace text) with _ | ⟨item, rest⟩
      · rfl
      · rw [read] at deep
        dsimp only at deep ⊢
        split at deep
        · next after comma =>
          rw [comma]
          change (scanItems value fuel after).map _ = none
          rw [ih after deep]
          rfl
        · cases deep

theorem membersExhaust_scan {value : Text → Option (Json × Text)} {exhausts : Text → Bool}
    (stops : ∀ text, exhausts text = true → value text = none) (fuel : Nat) (text : Text)
    (deep : membersExhaust value exhausts fuel text = true) :
    scanMembers value fuel text = none := by
  induction fuel generalizing text with
  | zero => rfl
  | succ fuel ih =>
    unfold membersExhaust at deep
    split at deep
    · next quoted opens =>
      rw [scanMembers_quoted fuel opens]
      rcases key : scanString quoted with _ | ⟨name, named⟩
      · rfl
      · rw [key] at deep
        change afterKey value fuel name named = none
        dsimp only at deep
        split at deep
        · next begins colon =>
          rw [afterKey, colon]
          change (value (skipSpace begins)).bind _ = none
          split at deep
          · next here => rw [stops _ here, Option.bind_none]
          · rcases read : value (skipSpace begins) with _ | ⟨item, rest⟩
            · rfl
            · rw [read] at deep
              change afterMember value fuel name item rest = none
              dsimp only at deep
              split at deep
              · next after comma =>
                rw [afterMember, comma]
                change (scanMembers value fuel after).map _ = none
                rw [ih after deep]
                rfl
              · cases deep
        · cases deep
    · cases deep

/-- Such a text has no value. -/
theorem exhausts_scan (limits : Limits) (depth : Nat) (text : Text)
    (deep : exhausts limits depth text = true) : scanOnce limits depth text = none := by
  induction depth generalizing text with
  | zero =>
    unfold exhausts at deep
    split at deep
    · rfl
    · rfl
    · contradiction
    · contradiction
    · cases deep
  | succ depth ih =>
    unfold exhausts at deep
    split at deep
    · contradiction
    · contradiction
    · next fewer rest same =>
      obtain rfl := Nat.succ.inj same
      rcases begins : skipSpace rest with _ | ⟨c, others⟩
      · rw [scanOnce, begins]
        rfl
      · rw [begins] at deep
        split at deep
        · cases deep
        · next other =>
          rw [scanOnce_obj begins (fun stop => other others (by rw [stop])),
            membersExhaust_scan ih _ _ deep]
          rfl
    · next fewer rest same =>
      obtain rfl := Nat.succ.inj same
      rcases begins : skipSpace rest with _ | ⟨c, others⟩
      · rw [scanOnce, begins]
        rfl
      · rw [begins] at deep
        split at deep
        · cases deep
        · next other =>
          rw [scanOnce_arr begins (fun stop => other others (by rw [stop])),
            itemsExhaust_scan ih _ _ deep]
          rfl
    · cases deep

theorem exhausts_loads (limits : Limits) (text : Text)
    (deep : exhausts limits limits.depth (skipSpace text) = true) : loads limits text = none := by
  rw [loads, exhausts_scan limits limits.depth _ deep]

section Longer

variable {value : Text → Option (Json × Text)} {exhausts : Text → Bool}

/-- What exhausts the stack does so with any more text behind it. -/
structure Deepens (exhausts : Text → Bool) : Prop where
  nil : exhausts [] = false
  append : ∀ p q, exhausts p = true → exhausts (p ++ q) = true

theorem itemsExhaust_append (grows : Extends value) (deepens : Deepens exhausts) {fuel more : Nat}
    (enough : fuel ≤ more) {p : Text} (q : Text)
    (deep : itemsExhaust value exhausts fuel p = true) :
    itemsExhaust value exhausts more (p ++ q) = true := by
  induction fuel generalizing p more with
  | zero => cases deep
  | succ fuel ih =>
    obtain ⟨more, rfl⟩ : ∃ fewer, more = fewer + 1 := ⟨more - 1, by omega⟩
    have solid : skipSpace p ≠ [] := by
      intro nothing
      rw [itemsExhaust, nothing, deepens.nil, grows.nil] at deep
      cases deep
    rw [itemsExhaust] at deep
    rw [itemsExhaust, skipSpace_append q solid]
    split at deep
    · next here => rw [deepens.append _ q here, if_pos rfl]
    · split at deep
      · cases deep
      · next item rest found =>
        split at deep
        · next others comma =>
          rw [grows.append _ q _ _ found (ends_of_skipSpace comma (by decide))]
          dsimp only
          rw [skipSpace_append q (by rw [comma]; simp), comma]
          simp [ih (Nat.le_of_succ_le_succ enough) deep]
        · cases deep

theorem membersExhaust_append (grows : Extends value) (deepens : Deepens exhausts)
    {fuel more : Nat} (enough : fuel ≤ more) {p : Text} (q : Text)
    (deep : membersExhaust value exhausts fuel p = true) :
    membersExhaust value exhausts more (p ++ q) = true := by
  induction fuel generalizing p more with
  | zero => cases deep
  | succ fuel ih =>
    obtain ⟨more, rfl⟩ : ∃ fewer, more = fewer + 1 := ⟨more - 1, by omega⟩
    rw [membersExhaust] at deep
    split at deep
    · next quoted opens =>
      split at deep
      · cases deep
      · next name named key =>
        split at deep
        · next begins colon =>
          have solid : skipSpace begins ≠ [] := by
            intro nothing
            rw [nothing, deepens.nil, grows.nil] at deep
            cases deep
          rw [membersExhaust, skipSpace_append q (by rw [opens]; simp), opens, List.cons_append]
          simp only [scanString_append quoted q key]
          rw [skipSpace_append q (by rw [colon]; simp), colon, List.cons_append]
          simp only [skipSpace_append q solid]
          split at deep
          · next here => rw [deepens.append _ q here, if_pos rfl]
          · split at deep
            · cases deep
            · next item rest found =>
              split at deep
              · next others comma =>
                rw [grows.append _ q _ _ found (ends_of_skipSpace comma (by decide))]
                dsimp only
                rw [skipSpace_append q (by rw [comma]; simp), comma]
                simp [ih (Nat.le_of_succ_le_succ enough) deep]
              · cases deep
        · cases deep
    · cases deep

theorem exhausts_deepens (limits : Limits) (depth : Nat) :
    Deepens (Json.exhausts limits depth) := by
  induction depth with
  | zero =>
    refine ⟨rfl, fun p q deep => ?_⟩
    unfold Json.exhausts at deep
    split at deep
    · rfl
    · rfl
    · contradiction
    · contradiction
    · cases deep
  | succ depth ih =>
    have grows := scanOnce_extends limits depth
    refine ⟨rfl, fun p q deep => ?_⟩
    unfold Json.exhausts at deep
    split at deep
    · contradiction
    · contradiction
    · next fewer rest same =>
      obtain rfl := Nat.succ.inj same
      rcases begins : skipSpace rest with _ | ⟨c, others⟩
      · rw [begins] at deep
        cases deep
      · rw [begins] at deep
        rw [List.cons_append, Json.exhausts, skipSpace_append q (by rw [begins]; simp), begins,
          List.cons_append]
        split at deep
        · cases deep
        · next other =>
          split
          · next stop => exact absurd (congrArg (· :: others) (List.cons.inj stop).1) (other others)
          · exact membersExhaust_append grows ih (by simp) q deep
    · next fewer rest same =>
      obtain rfl := Nat.succ.inj same
      rcases begins : skipSpace rest with _ | ⟨c, others⟩
      · rw [begins] at deep
        cases deep
      · rw [begins] at deep
        rw [List.cons_append, Json.exhausts, skipSpace_append q (by rw [begins]; simp), begins,
          List.cons_append]
        split at deep
        · cases deep
        · next other =>
          split
          · next stop => exact absurd (congrArg (· :: others) (List.cons.inj stop).1) (other others)
          · exact itemsExhaust_append grows ih (by simp) q deep
    · cases deep

end Longer

/-- A text that is cut off nests no deeper than the whole. -/
theorem exhausts_cut {limits : Limits} {text cut : Text} (whole : (loads limits text).isSome)
    (shorter : cut <+: text) : exhausts limits limits.depth (skipSpace cut) = false := by
  obtain ⟨missing, rfl⟩ := shorter
  by_contra deep
  have deep : exhausts limits limits.depth (skipSpace cut) = true := by simpa using deep
  have solid : skipSpace cut ≠ [] := by
    intro nothing
    rw [nothing, (exhausts_deepens limits limits.depth).nil] at deep
    cases deep
  have longer := (exhausts_deepens limits limits.depth).append _ missing deep
  rw [← skipSpace_append missing solid] at longer
  rw [exhausts_loads limits _ longer] at whole
  cases whole

end Json
