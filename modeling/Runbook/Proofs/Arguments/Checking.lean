import Mathlib.Data.List.Induction
import Mathlib.Data.List.Nodup
import Runbook.Arguments.Schema
/-!
# Arguments and their schema

What a schema asks of the tokens of an argument text. `Coercion.Reads` says which value a text has
at a type, `Field.Takes` what a field gets from the tokens and its default, and `Fits` when the
tokens are in order as a whole. None of them looks at the order of the tokens.

Two passes are made, over the tokens for their keys and then over the fields for their values. Each
ends at the first thing that is wrong: `IsFirstKeyFault` and `IsFirstFieldFault` say what that is
without following the pass. For each pass there are two lemmas, for a list in which nothing is wrong
and for one in which something is (`checkKeys_of_keysFit`, `checkKeys_of_isFirstKeyFault`,
`exists_collect_of_takes`, `collect_of_isFirstFieldFault`), and one that says that a list is always
one of the two. `parse_meets_schema` puts them together.
-/

set_option autoImplicit false

namespace Runbook.Arguments

open Number

/-! ### What is asked -/

/-- A text stands for a value at a type. -/
inductive Coercion.Reads : Coercion → String → Value → Prop where
  | text (text : String) : Reads .text text (.text text)
  | number {text : String} {n : Binary64} (hread : Decimal.read? text.toList = some n) :
    Reads .number text (.number n)
  | flag {text : String} {b : Bool} (hread : flag? text = some b) : Reads .flag text (.flag b)

section Fields

variable (field : Field) (tokens : List Token)

/-- No token names a field. -/
def Field.IsAbsent : Prop := ∀ token ∈ tokens, token.key ≠ field.name

/-- What a field gets from the tokens and its default, which can be no value at all. -/
inductive Field.Takes : Option Value → Prop where
  | given {text : String} {value : Value} (htoken : ⟨field.name, some text⟩ ∈ tokens)
    (hreads : field.coercion.Reads text value) : Takes (some value)
  | set (htoken : ⟨field.name, none⟩ ∈ tokens) (hflag : field.coercion = .flag) :
    Takes (some (.flag true))
  | default {text : String} {value : Value} (habsent : field.IsAbsent tokens)
    (hdefault : field.presence = .optional (some text))
    (hreads : field.coercion.Reads text value) : Takes (some value)
  | leftOut (habsent : field.IsAbsent tokens) (hoptional : field.presence = .optional none) :
    Takes none

/-- What is wrong with what the tokens give for a field, or with its default. -/
inductive Field.Fault : ArgumentError → Prop where
  | given {text : String} (htoken : ⟨field.name, some text⟩ ∈ tokens)
    (hreads : ¬∃ value, field.coercion.Reads text value) :
    Fault (.invalid field.name text field.coercion.expectation)
  | bare (htoken : ⟨field.name, none⟩ ∈ tokens) (hflag : field.coercion ≠ .flag) :
    Fault (.invalid field.name "" .keyAndValue)
  | default {text : String} (habsent : field.IsAbsent tokens)
    (hdefault : field.presence = .optional (some text))
    (hreads : ¬∃ value, field.coercion.Reads text value) :
    Fault (.invalid field.name text field.coercion.expectation)
  | missing (habsent : field.IsAbsent tokens) (hrequired : field.presence = .required) :
    Fault (.missing field.name)

end Fields

section Schemas

variable (schema : Schema) (tokens : List Token)

/-- Every key is one of the schema, and none is given twice. -/
structure KeysFit : Prop where
  known : ∀ token ∈ tokens, token.key ∈ schema.map Field.name
  once : (tokens.map Token.key).Nodup

/-- What is wrong with the key of a token that comes after some others. -/
inductive KeyFault (earlier : List Token) (token : Token) : ArgumentError → Prop where
  | unknown (hkey : token.key ∉ schema.map Field.name) :
    KeyFault earlier token (.unknown token.key (schema.map Field.name))
  | duplicate (hkey : token.key ∈ schema.map Field.name)
    (hearlier : token.key ∈ earlier.map Token.key) : KeyFault earlier token (.duplicate token.key)

/-- The first token with whose key something is wrong, and what that is. -/
def IsFirstKeyFault (error : ArgumentError) : Prop :=
  ∃ earlier token later, tokens = earlier ++ token :: later ∧ KeysFit schema earlier ∧
    KeyFault schema earlier token error

/-- The first field with which something is wrong, and what that is. -/
def IsFirstFieldFault (error : ArgumentError) : Prop :=
  ∃ earlier field later, schema = earlier ++ field :: later ∧
    (∀ other ∈ earlier, ∃ value, other.Takes tokens value) ∧ field.Fault tokens error

/-- Tokens give what a schema asks for. -/
structure Fits : Prop where
  known : ∀ token ∈ tokens, ∃ field ∈ schema, field.name = token.key
  once : (tokens.map Token.key).Nodup
  required : ∀ field ∈ schema, field.presence = .required → ∃ token ∈ tokens, token.key = field.name
  bare : ∀ field ∈ schema, ⟨field.name, none⟩ ∈ tokens → field.coercion = .flag
  given : ∀ field ∈ schema, ∀ text, ⟨field.name, some text⟩ ∈ tokens →
    ∃ value, field.coercion.Reads text value
  defaults : ∀ field ∈ schema, ∀ text, field.presence = .optional (some text) →
    field.IsAbsent tokens → ∃ value, field.coercion.Reads text value

/-- Arguments hold what the fields of a schema get, in the order of the schema, and nothing else. -/
structure Holds (arguments : Arguments) : Prop where
  get?_eq : ∀ name value, arguments.get? name = some value ↔
    ∃ field ∈ schema, field.name = name ∧ field.Takes tokens (some value)
  inOrder : (arguments.values.map Prod.fst).Sublist (schema.map Field.name)

end Schemas

variable {schema : Schema} {field : Field} {tokens others : List Token} {text : String}
  {value : Value} {found : Option Value} {error : ArgumentError}

/-! ### One field -/

theorem coerce_of_reads (h : field.coercion.Reads text value) : field.coerce text = .ok value := by
  unfold Field.coerce
  cases hcoercion : field.coercion with
  | text =>
    rw [hcoercion] at h
    cases h
    rfl
  | number =>
    rw [hcoercion] at h
    cases h with
    | number hread => simp only [hread]
  | flag =>
    rw [hcoercion] at h
    cases h with
    | flag hread => simp only [hread]

theorem coerce_of_not_reads (h : ¬∃ value, field.coercion.Reads text value) :
    field.coerce text = .error (.invalid field.name text field.coercion.expectation) := by
  unfold Field.coerce
  cases hcoercion : field.coercion with
  | text =>
    rw [hcoercion] at h
    exact absurd ⟨_, .text text⟩ h
  | number =>
    rw [hcoercion] at h
    cases hread : Decimal.read? text.toList with
    | none => rfl
    | some n => exact absurd ⟨_, .number hread⟩ h
  | flag =>
    rw [hcoercion] at h
    cases hread : flag? text with
    | none => rfl
    | some b => exact absurd ⟨_, .flag hread⟩ h

/-- A field gets something, or something is wrong with it. -/
theorem exists_takes_or_fault (field : Field) (tokens : List Token) :
    (∃ found, field.Takes tokens found) ∨ ∃ error, field.Fault tokens error := by
  by_cases habsent : field.IsAbsent tokens
  · cases hpresence : field.presence with
    | required => exact .inr ⟨_, .missing habsent hpresence⟩
    | optional default =>
      cases default with
      | none => exact .inl ⟨_, .leftOut habsent hpresence⟩
      | some text =>
        by_cases hreads : ∃ value, field.coercion.Reads text value
        · exact .inl ⟨_, .default habsent hpresence hreads.choose_spec⟩
        · exact .inr ⟨_, .default habsent hpresence hreads⟩
  · unfold Field.IsAbsent at habsent
    push Not at habsent
    obtain ⟨⟨key, given⟩, htoken, rfl⟩ := habsent
    cases given with
    | none =>
      by_cases hflag : field.coercion = .flag
      · exact .inl ⟨_, .set htoken hflag⟩
      · exact .inr ⟨_, .bare htoken hflag⟩
    | some text =>
      by_cases hreads : ∃ value, field.coercion.Reads text value
      · exact .inl ⟨_, .given htoken hreads.choose_spec⟩
      · exact .inr ⟨_, .given htoken hreads⟩

/-- The token for a key is found, wherever it stands. Assumes: no key is given twice. -/
theorem find?_key_of_mem (honce : (tokens.map Token.key).Nodup) {token : Token}
    (htoken : token ∈ tokens) : tokens.find? (fun other ↦ other.key == token.key) = some token := by
  cases hfound : tokens.find? (fun other ↦ other.key == token.key) with
  | none => exact absurd (beq_self_eq_true token.key) (List.find?_eq_none.1 hfound token htoken)
  | some other =>
    have hkey : other.key = token.key := by simpa using List.find?_some hfound
    rw [List.inj_on_of_nodup_map honce (List.mem_of_find?_eq_some hfound) htoken hkey]

theorem find?_key_of_isAbsent (h : field.IsAbsent tokens) :
    tokens.find? (fun token ↦ token.key == field.name) = none :=
  List.find?_eq_none.2 fun token htoken ↦ by simpa using h token htoken

/-- What a field gets is its value. Assumes: no key is given twice. -/
theorem Field.Takes.value?_eq (h : field.Takes tokens found)
    (honce : (tokens.map Token.key).Nodup) : field.value? tokens = .ok found := by
  unfold Field.value?
  cases h with
  | given htoken hreads =>
    rw [find?_key_of_mem honce htoken]
    simp only [coerce_of_reads hreads]
    rfl
  | set htoken hflag =>
    rw [find?_key_of_mem honce htoken]
    exact if_pos hflag
  | default habsent hdefault hreads =>
    rw [find?_key_of_isAbsent habsent, hdefault]
    simp only [coerce_of_reads hreads]
    rfl
  | leftOut habsent hoptional => rw [find?_key_of_isAbsent habsent, hoptional]

/-- What is wrong with a field is why it has no value. Assumes: no key is given twice. -/
theorem Field.Fault.value?_eq (h : field.Fault tokens error)
    (honce : (tokens.map Token.key).Nodup) : field.value? tokens = .error error := by
  unfold Field.value?
  cases h with
  | given htoken hreads =>
    rw [find?_key_of_mem honce htoken]
    simp only [coerce_of_not_reads hreads]
    rfl
  | bare htoken hflag =>
    rw [find?_key_of_mem honce htoken]
    exact if_neg hflag
  | default habsent hdefault hreads =>
    rw [find?_key_of_isAbsent habsent, hdefault]
    simp only [coerce_of_not_reads hreads]
    rfl
  | missing habsent hrequired => rw [find?_key_of_isAbsent habsent, hrequired]

/-- The value of a field is what it gets. Assumes: no key is given twice. -/
theorem value?_eq_ok_iff (honce : (tokens.map Token.key).Nodup) :
    field.value? tokens = .ok found ↔ field.Takes tokens found := by
  refine ⟨fun hvalue ↦ ?_, fun htakes ↦ htakes.value?_eq honce⟩
  rcases exists_takes_or_fault field tokens with ⟨other, htakes⟩ | ⟨error, hfault⟩
  · obtain rfl := Except.ok.inj (hvalue.symm.trans (htakes.value?_eq honce))
    exact htakes
  · exact nomatch hvalue.symm.trans (hfault.value?_eq honce)

/-! ### Keys -/

theorem all_name_bne_iff {key : String} :
    (schema.all fun field ↦ field.name != key) = true ↔ key ∉ schema.map Field.name := by
  rw [List.all_eq_true, List.mem_map, not_exists]
  exact forall_congr' fun field ↦ by rw [bne_iff_ne, not_and]

/-- Keys that are in order are passed, and then no later token may repeat them. -/
theorem checkKeys_append {seen : List String} {earlier : List Token} (h : KeysFit schema earlier)
    (hseen : ∀ token ∈ earlier, token.key ∉ seen) (rest : List Token) :
    checkKeys schema seen (earlier ++ rest) =
      checkKeys schema ((earlier.map Token.key).reverse ++ seen) rest := by
  induction earlier generalizing seen with
  | nil => rfl
  | cons token earlier ih =>
    obtain ⟨hknown, honce⟩ := h
    rw [List.forall_mem_cons] at hknown hseen
    rw [List.map_cons, List.nodup_cons] at honce
    have hfresh : ∀ other ∈ earlier, other.key ∉ token.key :: seen := by
      intro other hother hmem
      rcases List.mem_cons.1 hmem with heq | hmem
      · exact honce.1 (heq ▸ List.mem_map_of_mem hother)
      · exact hseen.2 other hother hmem
    rw [List.cons_append, checkKeys, if_neg (all_name_bne_iff.not_left.2 hknown.1), if_neg hseen.1,
      ih ⟨hknown.2, honce.2⟩ hfresh, List.map_cons, List.reverse_cons, List.append_assoc]
    rfl

theorem checkKeys_of_keysFit (h : KeysFit schema tokens) : checkKeys schema [] tokens = .ok () := by
  have hpassed := checkKeys_append h (fun _ _ ↦ List.not_mem_nil) []
  rwa [List.append_nil] at hpassed

theorem checkKeys_of_isFirstKeyFault (h : IsFirstKeyFault schema tokens error) :
    checkKeys schema [] tokens = .error error := by
  obtain ⟨earlier, token, later, rfl, hfit, hfault⟩ := h
  rw [checkKeys_append hfit (fun _ _ ↦ List.not_mem_nil), List.append_nil, checkKeys]
  cases hfault with
  | unknown hkey => rw [if_pos (all_name_bne_iff.2 hkey)]
  | duplicate hkey hearlier =>
    rw [if_neg (all_name_bne_iff.not_left.2 hkey), if_pos (List.mem_reverse.2 hearlier)]

/-- The keys are in order, or there is a first that is not. -/
theorem keysFit_or_isFirstKeyFault (schema : Schema) (tokens : List Token) :
    KeysFit schema tokens ∨ ∃ error, IsFirstKeyFault schema tokens error := by
  induction tokens using List.reverseRecOn with
  | nil => exact .inl ⟨nofun, List.nodup_nil⟩
  | append_singleton tokens token ih =>
    rcases ih with hfit | ⟨error, earlier, first, later, rfl, hfault⟩
    · by_cases hknown : token.key ∈ schema.map Field.name
      · by_cases hearlier : token.key ∈ tokens.map Token.key
        · exact .inr ⟨_, tokens, token, [], rfl, hfit, .duplicate hknown hearlier⟩
        · refine .inl ⟨List.forall_mem_append.2 ⟨hfit.known, List.forall_mem_singleton.2 hknown⟩,
            ?_⟩
          rw [List.map_append]
          exact List.nodup_append'.2 ⟨hfit.once, List.nodup_singleton _,
            List.disjoint_singleton.2 hearlier⟩
      · exact .inr ⟨_, tokens, token, [], rfl, hfit, .unknown hknown⟩
    · exact .inr ⟨error, earlier, first, later ++ [token], by simp, hfault⟩

/-! ### Fields -/

theorem get?_cons (key : String) (first : Value) (values : List (String × Value)) (name : String) :
    get? ⟨(key, first) :: values⟩ name = if name = key then some first else get? ⟨values⟩ name := by
  unfold get?
  rw [List.lookup_cons]
  by_cases hname : name = key
  · rw [if_pos hname, beq_iff_eq.2 hname]
  · rw [if_neg hname, beq_eq_false_iff_ne.2 hname]

/-- Where every field gets something, these are the arguments. Assumes: no key is given twice and no
name is that of two fields. -/
theorem exists_collect_of_takes (honce : (tokens.map Token.key).Nodup)
    (hnames : (schema.map Field.name).Nodup)
    (h : ∀ field ∈ schema, ∃ found, field.Takes tokens found) :
    ∃ values, collect tokens schema = .ok values ∧ Holds schema tokens ⟨values⟩ := by
  induction schema with
  | nil => exact ⟨[], rfl, by simp [get?], .refl _⟩
  | cons field schema ih =>
    rw [List.forall_mem_cons] at h
    rw [List.map_cons, List.nodup_cons] at hnames
    obtain ⟨⟨found, htakes⟩, hrest⟩ := h
    obtain ⟨values, hcollect, hget, horder⟩ := ih hnames.2 hrest
    have hvalue := htakes.value?_eq honce
    have htaken (name : String) (value : Value) : (∃ other ∈ field :: schema,
        other.name = name ∧ other.Takes tokens (some value)) ↔
          field.name = name ∧ found = some value ∨ get? ⟨values⟩ name = some value := by
      rw [hget, List.exists_mem_cons_iff, ← value?_eq_ok_iff honce, hvalue, Except.ok.injEq]
    cases found with
    | none =>
      refine ⟨values, ?_, fun name value ↦ ?_, horder.cons _⟩
      · rw [collect, hvalue, hcollect]
        rfl
      · rw [htaken]
        simp
    | some first =>
      refine ⟨(field.name, first) :: values, ?_, fun name value ↦ ?_, horder.cons_cons _⟩
      · rw [collect, hvalue, hcollect]
        rfl
      · rw [htaken, get?_cons]
        by_cases hname : name = field.name
        · -- No other field has the name, so none of the other values has it.
          have hnone : get? ⟨values⟩ name ≠ some value := fun hsome ↦ by
            obtain ⟨other, hother, hother', -⟩ := (hget _ _).1 hsome
            exact hnames.1 (hname ▸ hother' ▸ List.mem_map_of_mem hother)
          rw [if_pos hname, or_iff_left hnone, and_iff_right hname.symm]
        · rw [if_neg hname, or_iff_right fun h ↦ hname h.1.symm]

/-- The first thing that is wrong with a field is why there are no arguments. Assumes: no key is
given twice. -/
theorem collect_of_isFirstFieldFault (honce : (tokens.map Token.key).Nodup)
    (h : IsFirstFieldFault schema tokens error) : collect tokens schema = .error error := by
  obtain ⟨earlier, field, later, rfl, hearlier, hfault⟩ := h
  induction earlier with
  | nil =>
    rw [List.nil_append, collect, hfault.value?_eq honce]
    rfl
  | cons first earlier ih =>
    rw [List.forall_mem_cons] at hearlier
    obtain ⟨⟨found, htakes⟩, hearlier⟩ := hearlier
    rw [List.cons_append, collect, htakes.value?_eq honce, ih hearlier]
    rfl

/-- Every field gets something, or there is a first with which something is wrong. -/
theorem takes_or_isFirstFieldFault (schema : Schema) (tokens : List Token) :
    (∀ field ∈ schema, ∃ found, field.Takes tokens found) ∨
      ∃ error, IsFirstFieldFault schema tokens error := by
  induction schema with
  | nil => exact .inl nofun
  | cons field schema ih =>
    rcases exists_takes_or_fault field tokens with htakes | ⟨error, hfault⟩
    · rcases ih with hrest | ⟨error, earlier, first, later, rfl, hearlier, hfault⟩
      · exact .inl (List.forall_mem_cons.2 ⟨htakes, hrest⟩)
      · exact .inr ⟨error, field :: earlier, first, later, rfl,
          List.forall_mem_cons.2 ⟨htakes, hearlier⟩, hfault⟩
    · exact .inr ⟨error, [], field, schema, rfl, nofun, hfault⟩

/-! ### All tokens -/

/-- Tokens give what a schema asks for when their keys are in order and every field gets
something. -/
theorem fits_iff : Fits schema tokens ↔
    KeysFit schema tokens ∧ ∀ field ∈ schema, ∃ found, field.Takes tokens found := by
  constructor
  · intro h
    refine ⟨⟨fun token htoken ↦ List.mem_map.2 (h.known token htoken), h.once⟩,
      fun field hfield ↦ ?_⟩
    rcases exists_takes_or_fault field tokens with htakes | ⟨error, hfault⟩
    · exact htakes
    · -- Everything that can be wrong with a field is ruled out by one of the conditions.
      cases hfault with
      | given htoken hreads => exact absurd (h.given field hfield _ htoken) hreads
      | bare htoken hflag => exact absurd (h.bare field hfield htoken) hflag
      | default habsent hdefault hreads =>
        exact absurd (h.defaults field hfield _ hdefault habsent) hreads
      | missing habsent hrequired =>
        obtain ⟨token, htoken, hkey⟩ := h.required field hfield hrequired
        exact absurd hkey (habsent token htoken)
  · rintro ⟨hkeys, htakes⟩
    -- A field that gets something has nothing wrong with it.
    have hfault : ∀ field ∈ schema, ∀ error, ¬field.Fault tokens error := by
      intro field hfield error hfault
      obtain ⟨found, htakes⟩ := htakes field hfield
      exact nomatch (htakes.value?_eq hkeys.once).symm.trans (hfault.value?_eq hkeys.once)
    refine ⟨fun token htoken ↦ List.mem_map.1 (hkeys.known token htoken), hkeys.once,
      fun field hfield hrequired ↦ ?_, fun field hfield htoken ↦ ?_,
      fun field hfield text htoken ↦ ?_, fun field hfield text hdefault habsent ↦ ?_⟩
    · by_contra hnone
      exact hfault field hfield _
        (.missing (fun token htoken hkey ↦ hnone ⟨token, htoken, hkey⟩) hrequired)
    · by_contra hflag
      exact hfault field hfield _ (.bare htoken hflag)
    · by_contra hreads
      exact hfault field hfield _ (.given htoken hreads)
    · by_contra hreads
      exact hfault field hfield _ (.default habsent hdefault hreads)

/-- The order of the tokens does not matter to what a schema asks. -/
theorem Fits.perm (h : Fits schema tokens) (hperm : others.Perm tokens) : Fits schema others := by
  have hmem (token : Token) : token ∈ others ↔ token ∈ tokens := hperm.mem_iff
  have habsent (field : Field) : field.IsAbsent others ↔ field.IsAbsent tokens :=
    forall_congr' fun token ↦ imp_congr_left (hmem token)
  refine ⟨fun token htoken ↦ h.known token ((hmem token).1 htoken),
    (hperm.map Token.key).nodup_iff.2 h.once, fun field hfield hrequired ↦ ?_,
    fun field hfield htoken ↦ h.bare field hfield ((hmem _).1 htoken),
    fun field hfield text htoken ↦ h.given field hfield text ((hmem _).1 htoken),
    fun field hfield text hdefault hnone ↦
      h.defaults field hfield text hdefault ((habsent field).1 hnone)⟩
  obtain ⟨token, htoken, hkey⟩ := h.required field hfield hrequired
  exact ⟨token, (hmem token).2 htoken, hkey⟩

/-- Nor does it matter to what the fields get. Assumes: no key is given twice. -/
theorem collect_perm (honce : (tokens.map Token.key).Nodup) (hperm : others.Perm tokens)
    (schema : Schema) : collect others schema = collect tokens schema := by
  have hfind (name : String) : others.find? (fun token ↦ token.key == name) =
      tokens.find? (fun token ↦ token.key == name) := by
    cases hfound : tokens.find? (fun token ↦ token.key == name) with
    | none =>
      rw [List.find?_eq_none] at hfound ⊢
      exact fun token htoken ↦ hfound token (hperm.mem_iff.1 htoken)
    | some token =>
      have hkey : token.key = name := by simpa using List.find?_some hfound
      subst hkey
      exact find?_key_of_mem ((hperm.map Token.key).nodup_iff.2 honce)
        (hperm.mem_iff.2 (List.mem_of_find?_eq_some hfound))
  induction schema with
  | nil => rfl
  | cons field schema ih => rw [collect, collect, ih, Field.value?, Field.value?, hfind]

/-- Why tokens are refused: the first fault of a key, or, when there is none, the first of a
field. -/
def IsCause (schema : Schema) (tokens : List Token) (error : ArgumentError) : Prop :=
  IsFirstKeyFault schema tokens error ∨
    KeysFit schema tokens ∧ IsFirstFieldFault schema tokens error

theorem ofTokens_of_fits (hnames : (schema.map Field.name).Nodup) (h : Fits schema tokens) :
    ∃ arguments, ofTokens schema tokens = .ok arguments ∧ Holds schema tokens arguments := by
  obtain ⟨hkeys, htakes⟩ := fits_iff.1 h
  obtain ⟨values, hcollect, hholds⟩ := exists_collect_of_takes hkeys.once hnames htakes
  refine ⟨⟨values⟩, ?_, hholds⟩
  rw [ofTokens, checkKeys_of_keysFit hkeys, hcollect]
  rfl

theorem ofTokens_of_isCause (h : IsCause schema tokens error) :
    ofTokens schema tokens = .error error := by
  rw [ofTokens]
  rcases h with hkey | ⟨hkeys, hfield⟩
  · rw [checkKeys_of_isFirstKeyFault hkey]
    rfl
  · rw [checkKeys_of_keysFit hkeys, collect_of_isFirstFieldFault hkeys.once hfield]
    rfl

theorem fits_or_isCause (schema : Schema) (tokens : List Token) :
    Fits schema tokens ∨ ∃ error, IsCause schema tokens error := by
  rcases keysFit_or_isFirstKeyFault schema tokens with hkeys | ⟨error, hkey⟩
  · rcases takes_or_isFirstFieldFault schema tokens with htakes | ⟨error, hfield⟩
    · exact .inl (fits_iff.2 ⟨hkeys, htakes⟩)
    · exact .inr ⟨error, .inr ⟨hkeys, hfield⟩⟩
  · exact .inr ⟨error, .inl hkey⟩

/-- Tokens have arguments exactly when they fit the schema. Assumes: no two fields have one name. -/
theorem exists_ofTokens_iff (hnames : (schema.map Field.name).Nodup) :
    (∃ arguments, ofTokens schema tokens = .ok arguments) ↔ Fits schema tokens := by
  constructor
  · rintro ⟨arguments, hok⟩
    rcases fits_or_isCause schema tokens with hfits | ⟨error, hcause⟩
    · exact hfits
    · exact nomatch hok.symm.trans (ofTokens_of_isCause hcause)
  · intro hfits
    obtain ⟨arguments, hok, -⟩ := ofTokens_of_fits hnames hfits
    exact ⟨arguments, hok⟩

/-- The arguments of tokens hold what the fields get. Assumes: no two fields have one name. -/
theorem holds_of_ofTokens (hnames : (schema.map Field.name).Nodup) {arguments : Arguments}
    (h : ofTokens schema tokens = .ok arguments) : Holds schema tokens arguments := by
  obtain ⟨held, hheld, hholds⟩ :=
    ofTokens_of_fits hnames ((exists_ofTokens_iff hnames).1 ⟨arguments, h⟩)
  exact Except.ok.inj (hheld.symm.trans h) ▸ hholds

/-- The error of tokens is why they are refused. Assumes: no two fields have one name. -/
theorem ofTokens_eq_error_iff (hnames : (schema.map Field.name).Nodup) :
    ofTokens schema tokens = .error error ↔ IsCause schema tokens error := by
  refine ⟨fun herror ↦ ?_, ofTokens_of_isCause⟩
  rcases fits_or_isCause schema tokens with hfits | ⟨cause, hcause⟩
  · obtain ⟨arguments, hok, -⟩ := ofTokens_of_fits hnames hfits
    exact nomatch hok.symm.trans herror
  · exact Except.error.inj ((ofTokens_of_isCause hcause).symm.trans herror) ▸ hcause

/-- Tokens in another order have the same arguments. Assumes: they fit the schema. -/
theorem ofTokens_perm (h : Fits schema tokens) (hperm : others.Perm tokens) :
    ofTokens schema others = ofTokens schema tokens := by
  rw [ofTokens, ofTokens, checkKeys_of_keysFit (fits_iff.1 h).1,
    checkKeys_of_keysFit (fits_iff.1 (h.perm hperm)).1, collect_perm h.once hperm]

/-- Arguments are what their schema asks for. A text has arguments exactly when its tokens fit the
schema, and these hold what the fields get and nothing else. Otherwise the error is the first fault
of a key, in the order of the tokens, or else the first of a field, in the order of the schema. The
same tokens in another order give the same arguments, or none either. Assumes: no two fields have
one name, and the text can be read as tokens. -/
theorem parse_meets_schema (hnames : (schema.map Field.name).Nodup) {text : String}
    (htext : tokenize text.toList = .ok tokens) :
    ((∃ arguments, parse schema text = .ok arguments) ↔ Fits schema tokens) ∧
    (∀ arguments, parse schema text = .ok arguments → Holds schema tokens arguments) ∧
    (∀ error, parse schema text = .error error ↔ IsCause schema tokens error) ∧
    (∀ other others, tokenize other.toList = .ok others → others.Perm tokens →
      (∃ arguments, parse schema text = .ok arguments ∧ parse schema other = .ok arguments) ∨
        ∃ error another, parse schema text = .error error ∧
          parse schema other = .error another) := by
  have hparse {text : String} {tokens : List Token} (htext : tokenize text.toList = .ok tokens) :
      parse schema text = ofTokens schema tokens := by rw [parse, htext]
  rw [hparse htext]
  refine ⟨exists_ofTokens_iff hnames, fun _ ↦ holds_of_ofTokens hnames,
    fun _ ↦ ofTokens_eq_error_iff hnames, fun other others hother hperm ↦ ?_⟩
  rw [hparse hother]
  rcases fits_or_isCause schema tokens with hfits | ⟨error, hcause⟩
  · obtain ⟨arguments, hok, -⟩ := ofTokens_of_fits hnames hfits
    exact .inl ⟨arguments, hok, (ofTokens_perm hfits hperm).trans hok⟩
  · rcases fits_or_isCause schema others with hothers | ⟨another, hanother⟩
    · -- Tokens that fit do so in every order.
      obtain ⟨arguments, hok, -⟩ := ofTokens_of_fits hnames (hothers.perm hperm.symm)
      exact nomatch hok.symm.trans (ofTokens_of_isCause hcause)
    · exact .inr ⟨error, another, ofTokens_of_isCause hcause, ofTokens_of_isCause hanother⟩

/-- A flag and a required field, in both orders, and a number that is left out. -/
theorem parse_meets_schema_swapped :
    let schema : Schema := [.required "filename" .text, .withDefault "width" .number "1024",
      .withDefault "retina" .flag "false"]
    let tokens : List Token := [⟨"retina", none⟩, ⟨"filename", some "a.png"⟩]
    (schema.map Field.name).Nodup ∧ tokenize "retina filename=a.png".toList = .ok tokens ∧
      Fits schema tokens ∧
      ∃ arguments, parse schema "retina filename=a.png" = .ok arguments ∧
        parse schema "filename=\"a.png\" retina" = .ok arguments ∧
        arguments.get? "retina" = some (.flag true) ∧ Holds schema tokens arguments := by
  intro schema tokens
  have hnames : (schema.map Field.name).Nodup := by decide
  have htext : tokenize "retina filename=a.png".toList = .ok tokens := by decide +kernel
  have hother : tokenize "filename=\"a.png\" retina".toList = .ok tokens.reverse := by
    decide +kernel
  have hread : ((parse schema "retina filename=a.png").toOption.bind (·.get? "retina")) =
      some (.flag true) := by decide +kernel
  obtain ⟨hfits, hholds, -, hperm⟩ := parse_meets_schema hnames htext
  rcases hperm _ _ hother (List.reverse_perm tokens) with
    ⟨arguments, hok, hsame⟩ | ⟨error, -, herror, -⟩
  · rw [hok] at hread
    exact ⟨hnames, htext, hfits.1 ⟨arguments, hok⟩, arguments, hok, hsame, hread,
      hholds arguments hok⟩
  · rw [herror] at hread
    cases hread

end Runbook.Arguments
