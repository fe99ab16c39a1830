import RegistryAuth.Proofs.Json.Scalar

/-! # Reading what was written

The text of a value is read back as the value, whatever its strings hold. Only
integers beyond 64 bits come back as other numbers, or not at all. Values with
real numbers are left aside.
-/

namespace RegistryAuth.Json

/-- A value without real numbers whose containers are nested at most `depth` deep. -/
def IsPlain : Nat → Json → Prop
  | depth + 1, .array items => ∀ item ∈ items, IsPlain depth item
  | depth + 1, .object members => ∀ member ∈ members, IsPlain depth member.2
  | _, .null => True
  | _, .bool _ => True
  | _, .int _ => True
  | _, .string _ => True
  | _, .real _ => False
  | 0, .array _ => False
  | 0, .object _ => False

/-- What the text of a plain value is read as. -/
def reread? : Nat → Json → Option Json
  | depth + 1, .array items => (items.mapM (reread? depth)).map .array
  | depth + 1, .object members =>
    (members.mapM fun member => (reread? depth member.2).map (member.1, ·)).map .object
  | _, .int n => intOrReal (n < 0) (Nat.toDigits 10 n.natAbs)
  | _, json => some json

variable {depth fuel : Nat} {c : Char} {json item read : Json} {items : List Json}
  {member : String × Json} {members : List (String × Json)} {more rest : List Char}

section Reading

theorem isSpace_of_isDigit (h : Decimal.isDigit c = true) : isSpace c = false := by
  cases hs : isSpace c with
  | false => rfl
  | true =>
    simp only [isSpace, Bool.or_eq_true, decide_eq_true_eq] at hs
    rcases hs with ((rfl | rfl) | rfl) | rfl <;> cases h

theorem text_eq_cons (h : json.IsPlain depth) :
    ∃ c more, json.text = c :: more ∧ isSpace c = false ∧ c ≠ ']' := by
  cases json with
  | null => exact ⟨'n', _, by rw [text]; rfl, rfl, by decide⟩
  | bool value => cases value <;> exact ⟨_, _, by rw [text]; rfl, rfl, by decide⟩
  | int n =>
    obtain ⟨c, more, hd, hc⟩ := toDigits_eq_cons n.natAbs
    rw [text_int, hd]
    split
    · exact ⟨'-', _, rfl, rfl, by decide⟩
    · refine ⟨c, more, rfl, isSpace_of_isDigit hc, ?_⟩
      rintro rfl
      cases hc
  | real x => cases depth <;> exact h.elim
  | string value => exact ⟨'"', _, by rw [text]; rfl, rfl, by decide⟩
  | array items => cases items <;> exact ⟨'[', _, by simp only [text]; rfl, rfl, by decide⟩
  | object members =>
    cases members <;> exact ⟨'\x7b', _, by simp only [text]; rfl, rfl, by decide⟩

theorem endsValue_itemsText (items : List Json) (rest : List Char) :
    EndsValue (itemsText items ++ rest) := by
  cases items <;> rw [itemsText]
  · exact .atBracket _
  · exact .atComma _

theorem endsValue_membersText (members : List (String × Json)) (rest : List Char) :
    EndsValue (membersText members ++ rest) := by
  cases members <;> rw [membersText]
  · exact .atBrace _
  · exact .atComma _

/-- Wherever it stands, the text of a value is read as `reread?` tells. -/
def IsReread (depth : Nat) (json : Json) : Prop :=
  ∀ fuel rest, 2 * json.text.length ≤ fuel + 1 → EndsValue rest →
    readValue (fuel + 1) depth (json.text ++ rest) = (json.reread? depth).map (·, rest)

theorem readItems_itemsText (h : ∀ i ∈ item :: items, IsReread depth i) (done : List Json)
    (hf : 2 * (item.text.length + (itemsText items).length) < fuel) :
    readItems fuel depth done (item.text ++ (itemsText items ++ rest)) =
      ((item :: items).mapM (reread? depth)).map fun read =>
        (array (done.reverse ++ read), rest) := by
  -- On the items behind the first. Each one takes two units of fuel and has a character at least.
  induction items generalizing item fuel done with
  | nil =>
    rw [itemsText, List.length_singleton] at hf
    obtain ⟨fuel, rfl⟩ : ∃ f, fuel = f + 2 := ⟨fuel - 2, by omega⟩
    rw [readItems, h item List.mem_cons_self fuel _ (by omega) (endsValue_itemsText [] rest)]
    cases hi : reread? depth item <;> simp [itemsText, skipSpace, isSpace, hi]
  | cons next items ih =>
    simp only [itemsText, List.length_cons, List.length_append] at hf
    obtain ⟨fuel, rfl⟩ : ∃ f, fuel = f + 2 := ⟨fuel - 2, by omega⟩
    rw [readItems, h item List.mem_cons_self fuel _ (by omega) (endsValue_itemsText _ rest),
      List.mapM_cons]
    cases reread? depth item with
    | none => rfl
    | some read =>
      have hf : 2 * (next.text.length + (itemsText items).length) < fuel + 1 := by omega
      have ih := ih (fun i hi => h i (List.mem_cons_of_mem _ hi)) (read :: done) hf
      simp only [itemsText, List.cons_append, List.append_assoc, Option.map_some]
      change readItems (fuel + 1) depth (read :: done) _ = _
      rw [ih]
      cases (next :: items).mapM (reread? depth) <;> simp

theorem memberText_append (name : String) (value : Json) (rest : List Char) :
    memberText (name, value) ++ rest =
      '"' :: (name.toList.flatMap escapedChar ++ '"' :: ':' :: (value.text ++ rest)) := by
  simp [memberText, stringText]

theorem length_text_lt_memberText (member : String × Json) :
    member.2.text.length < (memberText member).length := by
  obtain ⟨name, value⟩ := member
  simp only [memberText, List.length_append, List.length_cons]
  omega

theorem readMembers_memberText (h : IsReread depth member.2)
    (hf : 2 * member.2.text.length ≤ fuel + 1) (hr : EndsValue rest)
    (done : List (String × Json)) :
    readMembers (fuel + 2) depth done (memberText member ++ rest) =
      (reread? depth member.2).bind fun read =>
        match skipSpace rest with
        | ',' :: more => readMembers (fuel + 1) depth ((member.1, read) :: done) more
        | '\x7d' :: more => some (object ((member.1, read) :: done).reverse, more)
        | _ => none := by
  obtain ⟨name, value⟩ := member
  rw [memberText_append, readMembers, skipSpace, List.dropWhile_cons_of_neg (by decide)]
  simp only [readString_stringText, List.reverse_nil, List.nil_append, String.ofList_toList]
  rw [skipSpace, List.dropWhile_cons_of_neg (by decide)]
  simp only [h fuel rest hf hr]
  cases reread? depth value <;> rfl

theorem readMembers_membersText (h : ∀ m ∈ member :: members, IsReread depth m.2)
    (done : List (String × Json))
    (hf : 2 * ((memberText member).length + (membersText members).length) < fuel) :
    readMembers fuel depth done (memberText member ++ (membersText members ++ rest)) =
      ((member :: members).mapM fun m => (reread? depth m.2).map (m.1, ·)).map fun read =>
        (object (done.reverse ++ read), rest) := by
  induction members generalizing member fuel done with
  | nil =>
    have hl := length_text_lt_memberText member
    obtain ⟨fuel, rfl⟩ : ∃ f, fuel = f + 2 := ⟨fuel - 2, by omega⟩
    rw [readMembers_memberText (h member List.mem_cons_self) (by omega)
      (endsValue_membersText [] rest), List.mapM_cons]
    cases reread? depth member.2 <;> simp [membersText, skipSpace, isSpace]
  | cons next members ih =>
    have hl := length_text_lt_memberText member
    simp only [membersText, List.length_cons, List.length_append] at hf
    obtain ⟨fuel, rfl⟩ : ∃ f, fuel = f + 2 := ⟨fuel - 2, by omega⟩
    rw [readMembers_memberText (h member List.mem_cons_self) (by omega)
      (endsValue_membersText _ rest), List.mapM_cons]
    cases reread? depth member.2 with
    | none => rfl
    | some read =>
      have hf : 2 * ((memberText next).length + (membersText members).length) < fuel + 1 := by
        omega
      have ih := ih (fun m hm => h m (List.mem_cons_of_mem _ hm)) ((member.1, read) :: done) hf
      simp only [membersText, List.cons_append, List.append_assoc, Option.bind_some]
      change readMembers (fuel + 1) depth ((member.1, read) :: done) _ = _
      rw [ih]
      cases (next :: members).mapM fun m => (reread? depth m.2).map (m.1, ·) <;> simp

/-- A digit begins none of the values that begin with a mark or a word. -/
theorem readValue_digit (h : Decimal.isDigit c = true) (more : List Char) :
    readValue (fuel + 1) depth (c :: more) = readNumber false (c :: more) := by
  have hc : ∀ {b}, c = b → Decimal.isDigit b = false → False := by
    rintro b rfl hb
    rw [h] at hb
    cases hb
  rw [readValue, skipSpace, List.dropWhile_cons_of_neg (by simp [isSpace_of_isDigit h])]
  split
  case h_8 => rfl
  all_goals
    rename_i ht
    exact (hc (List.cons.inj ht).1 rfl).elim

theorem isReread_int (n : Int) : IsReread depth (.int n) := by
  intro fuel rest hf hr
  rw [text_int, reread?]
  by_cases hn : n < 0
  · simp only [hn, if_true, decide_true, List.cons_append, List.nil_append]
    rw [readValue, skipSpace, List.dropWhile_cons_of_neg (by decide)]
    exact readNumber_toDigits true n.natAbs hr
  · obtain ⟨c, more, hd, hc⟩ := toDigits_eq_cons n.natAbs
    simp only [hn, if_false, decide_false, List.nil_append]
    rw [← readNumber_toDigits false n.natAbs hr, hd, List.cons_append, readValue_digit hc]

theorem isReread_string (value : String) : IsReread depth (.string value) := by
  intro fuel rest hf hr
  have ht : (Json.string value).text ++ rest =
      '"' :: (value.toList.flatMap escapedChar ++ '"' :: rest) := by
    simp [text, stringText]
  rw [ht, readValue, skipSpace, List.dropWhile_cons_of_neg (by decide)]
  simp [readString_stringText, reread?]

theorem isReread_array (hp : ∀ item ∈ items, IsPlain depth item)
    (h : ∀ item ∈ items, IsReread depth item) : IsReread (depth + 1) (.array items) := by
  intro fuel rest hf hr
  cases items with
  | nil =>
    simp only [text]
    rfl
  | cons item items =>
    obtain ⟨c, more, ht, hs, hb⟩ := text_eq_cons (hp item List.mem_cons_self)
    simp only [text, List.length_cons, List.length_append] at hf
    have hi : readItems fuel depth [] (item.text ++ (itemsText items ++ rest)) = _ :=
      readItems_itemsText h [] (by omega)
    simp only [text, List.cons_append, List.append_assoc]
    rw [ht, List.cons_append] at hi ⊢
    rw [readValue, skipSpace, List.dropWhile_cons_of_neg (by decide)]
    simp only [skipSpace, List.dropWhile_cons_of_neg (p := isSpace) (by simp [hs] : ¬ isSpace c = true)]
    split
    next hm => exact absurd (List.cons.inj hm).1 hb
    next =>
      rw [hi, reread?]
      cases (item :: items).mapM (reread? depth) <;> rfl

theorem isReread_object (h : ∀ member ∈ members, IsReread depth member.2) :
    IsReread (depth + 1) (.object members) := by
  intro fuel rest hf hr
  cases members with
  | nil =>
    simp only [text]
    rfl
  | cons member members =>
    simp only [text, List.length_cons, List.length_append] at hf
    have hm : readMembers fuel depth [] (memberText member ++ (membersText members ++ rest)) = _ :=
      readMembers_membersText h [] (by omega)
    simp only [text, List.cons_append, List.append_assoc]
    rw [memberText_append] at hm ⊢
    rw [readValue, skipSpace, List.dropWhile_cons_of_neg (by decide)]
    change readMembers fuel depth [] _ = _
    rw [hm, reread?]
    cases (member :: members).mapM fun m => (reread? depth m.2).map (m.1, ·) <;> rfl

theorem isReread_null : IsReread depth .null := by
  intro fuel rest hf hr
  have hn : reread? depth .null = some .null := by simp [reread?]
  rw [hn, text]
  rfl

theorem isReread_bool (value : Bool) : IsReread depth (.bool value) := by
  intro fuel rest hf hr
  have hb : reread? depth (.bool value) = some (.bool value) := by simp [reread?]
  rw [hb, text]
  cases value <;> rfl

theorem IsPlain.isReread : ∀ {depth : Nat} {json : Json}, json.IsPlain depth → IsReread depth json
  | _, .null, _ => isReread_null
  | _, .bool value, _ => isReread_bool value
  | _, .int n, _ => isReread_int n
  | _, .string value, _ => isReread_string value
  | _ + 1, .array _, hp => isReread_array hp fun item hm => (hp item hm).isReread
  | _ + 1, .object _, hp => isReread_object fun member hm => (hp member hm).isReread
  | _, .real _, hp => by simp [IsPlain] at hp

theorem parse?_render (hp : json.IsPlain depthLimit) :
    parse? json.render = json.reread? depthLimit := by
  have h := hp.isReread (2 * json.text.length) [] (by omega) .atEnd
  rw [List.append_nil] at h
  rw [parse?, render, String.toList_ofList, ofText?, h]
  cases json.reread? depthLimit <;> rfl

end Reading

section Exactness

theorem reread?_int {n : Int} (hl : -(2 ^ 63) ≤ n) (hu : n < 2 ^ 64) :
    reread? depth (.int n) = some (.int n) := by
  rw [reread?]
  exact intOrReal_toDigits hl hu

theorem reread?_string (value : String) : reread? depth (.string value) = some (.string value) := by
  simp [reread?]

theorem mapM_eq_some_self {α : Type} {f : α → Option α} {values : List α}
    (h : ∀ value ∈ values, f value = some value) : values.mapM f = some values := by
  induction values with
  | nil => rfl
  | cons value values ih =>
    obtain ⟨hv, hr⟩ := List.forall_mem_cons.mp h
    rw [List.mapM_cons, hv, ih hr]
    rfl

theorem reread?_array (h : ∀ item ∈ items, reread? depth item = some item) :
    reread? (depth + 1) (.array items) = some (.array items) := by
  rw [reread?, mapM_eq_some_self h]
  rfl

theorem reread?_object (h : ∀ member ∈ members, reread? depth member.2 = some member.2) :
    reread? (depth + 1) (.object members) = some (.object members) := by
  rw [reread?, mapM_eq_some_self fun member hm => by rw [h member hm]; rfl]
  rfl

/-- The members of an object keep their names. -/
theorem reread?_object_eq_some (h : reread? (depth + 1) (.object members) = some read) :
    ∃ others, read = .object others ∧ others.map Prod.fst = members.map Prod.fst := by
  rw [reread?, Option.map_eq_some_iff] at h
  obtain ⟨others, h, rfl⟩ := h
  refine ⟨others, rfl, ?_⟩
  induction members generalizing others with
  | nil =>
    cases h
    rfl
  | cons member members ih =>
    simp only [List.mapM_cons, Option.bind_eq_bind, Option.bind_eq_some_iff,
      Option.map_eq_some_iff] at h
    obtain ⟨_, ⟨value, -, rfl⟩, others, ho, h⟩ := h
    cases h
    rw [List.map_cons, List.map_cons, ih others ho]

end Exactness

end RegistryAuth.Json
