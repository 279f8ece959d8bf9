import Mathlib
import TrackerSync.Http.Exchange

/-!
The reader of `Link` headers against the grammar of the field: they agree on link-values that
can be taken apart as written, and a quoted `; rel=next` tells them apart.
-/

namespace TrackerSync.Http

/-! ### Link-values as written -/

/-- A parameter value as a `Link` header writes it: a token, or a quoted string. -/
inductive ParamValue where
  | token (text : String)
  | quoted (text : String)

namespace ParamValue

def written : ParamValue → String
  | token t => t
  | quoted t => "\"" ++ t ++ "\""

def content : ParamValue → String
  | token t => t
  | quoted t => t

def relationTypes (v : ParamValue) : List String :=
  ((v.content.toList.splitOn ' ').filter (· ≠ [])).map String.ofList

end ParamValue

/-- A parameter of a link-value, with the optional whitespace before and after its `;`. -/
structure LinkParam where
  before : String
  after : String
  name : String
  value : Option ParamValue

/-- A link-value: a target between angle brackets and its parameters, with optional whitespace
before and after it. -/
structure LinkValue where
  lead : String
  target : String
  params : List LinkParam
  trail : String

def LinkParam.render (p : LinkParam) : String :=
  p.before ++ ";" ++ p.after ++ p.name ++ (p.value.map fun v => "=" ++ v.written).getD ""

def LinkValue.render (l : LinkValue) : String :=
  l.lead ++ "<" ++ l.target ++ ">" ++ String.join (l.params.map LinkParam.render) ++ l.trail

def renderLinks (links : List LinkValue) : String := ",".intercalate (links.map LinkValue.render)

/-- Whether a link-value has relation type `next`: its first parameter named `rel` (in any ASCII
case) has a value listing `next` (in any ASCII case). -/
def LinkValue.listsNext (l : LinkValue) : Bool :=
  ((l.params.find? (·.name.toLower == "rel")).bind (·.value)).any fun v =>
    v.relationTypes.any (·.toLower == "next")

/-! ### Link-values the reader takes apart as written -/

def IsOws (s : String) : Prop := ∀ c ∈ s.toList, c = ' ' ∨ c = '\t'

def isTokenChar (c : Char) : Bool :=
  0x21 ≤ c.toNat && c.toNat ≤ 0x7E && !"\"(),/:;<=>?@[\\]\x7b\x7d".toList.contains c

/-- A value the reader takes apart as written: a token, or a quoted string of visible ASCII
without quotes, backslashes, commas or semicolons. -/
def ParamValue.Readable : ParamValue → Prop
  | .token t => ∀ c ∈ t.toList, isTokenChar c
  | .quoted t => ∀ c ∈ t.toList,
      0x20 ≤ c.toNat ∧ c.toNat ≤ 0x7E ∧ c ≠ '"' ∧ c ≠ '\\' ∧ c ≠ ',' ∧ c ≠ ';'

/-- A parameter the reader takes apart as written. -/
structure LinkParam.Readable (p : LinkParam) : Prop where
  before : IsOws p.before
  after : IsOws p.after
  name : ∀ c ∈ p.name.toList, isTokenChar c
  value : ∀ v, p.value = some v → v.Readable
  /-- A name that is `rel` in some ASCII case is written in lower case. -/
  rel_lower : p.name.toLower = "rel" → p.name = "rel"

/-- A link-value the reader takes apart as written. -/
structure LinkValue.Readable (l : LinkValue) : Prop where
  lead : IsOws l.lead
  trail : IsOws l.trail
  target : ∀ c ∈ l.target.toList, isHeaderChar c ∧ c ≠ ',' ∧ c ≠ ';'
  params : ∀ p ∈ l.params, p.Readable
  /-- At most one parameter is named `rel`. -/
  one_rel : (l.params.filter (·.name.toLower == "rel")).length ≤ 1

theorem isTokenChar_spec {c : Char} (token : isTokenChar c = true) :
    isHeaderChar c ∧ Text.isBlank c = false ∧ c ≠ ',' ∧ c ≠ ';' ∧ c ≠ '=' ∧ c ≠ '"' := by
  have range : 0x21 ≤ c.toNat ∧ c.toNat ≤ 0x7E := by
    simp only [isTokenChar, Bool.and_eq_true, decide_eq_true_eq] at token
    exact token.1
  refine ⟨?_, ?_, ?_, ?_, ?_, ?_⟩
  · simp only [isHeaderChar, Bool.or_eq_true, Bool.and_eq_true, decide_eq_true_eq]
    omega
  · simp only [Text.isBlank, Bool.or_eq_false_iff, decide_eq_false_iff_not, beq_eq_false_iff_ne]
    omega
  all_goals (rintro rfl; revert token; decide)

theorem ows_spec {c : Char} (ows : c = ' ' ∨ c = '\t') :
    isHeaderChar c ∧ Text.isBlank c = true ∧ c ≠ ',' ∧ c ≠ ';' := by
  rcases ows with rfl | rfl <;> decide

/-! ### Splitting at semicolons -/

/-- What a parameter writes after the whitespace that follows its `;`: its name, then `=` and
the value if it has one. -/
def LinkParam.core (p : LinkParam) : List Char :=
  p.name.toList ++ (p.value.map fun v => '=' :: v.written.toList).getD []

theorem LinkParam.toList_render (p : LinkParam) :
    p.render.toList = p.before.toList ++ ';' :: (p.after.toList ++ p.core) := by
  cases h : p.value <;> simp [render, core, h, String.toList_append]

theorem LinkValue.toList_render (l : LinkValue) :
    l.render.toList = (l.lead.toList ++ '<' :: l.target.toList ++ ['>']) ++
      (l.params.map (·.render.toList)).flatten ++ l.trail.toList := by
  simp [render, String.toList_append, List.flatMap_def, Function.comp_def]

/-- The whitespace that ends the piece before a parameter list: the first parameter's, or the
link-value's trailing whitespace when there is no parameter. -/
def firstBefore : List LinkParam → List Char → List Char
  | [], trail => trail
  | p :: _, _ => p.before.toList

def paramPieces : List LinkParam → List Char → List (List Char)
  | [], _ => []
  | p :: ps, trail => (p.after.toList ++ p.core ++ firstBefore ps trail) :: paramPieces ps trail

theorem splitOn_params (trail : List Char) (noSemicolon : ';' ∉ trail) :
    ∀ (ps : List LinkParam) (front : List Char), ';' ∉ front →
      (∀ p ∈ ps, ';' ∉ p.before.toList ∧ ';' ∉ p.after.toList ++ p.core) →
      (front ++ (ps.map (·.render.toList)).flatten ++ trail).splitOn ';' =
        (front ++ firstBefore ps trail) :: paramPieces ps trail
  | [], front, frontClean, _ => by
    rw [List.map_nil, List.flatten_nil, List.append_nil,
      List.splitOn_eq_singleton (by simp [frontClean, noSemicolon])]
    rfl
  | p :: ps, front, frontClean, clean => by
    obtain ⟨beforeClean, bodyClean⟩ := clean p (List.mem_cons_self ..)
    have rest := splitOn_params trail noSemicolon ps (p.after.toList ++ p.core) bodyClean
      (fun q mem => clean q (List.mem_cons_of_mem _ mem))
    rw [List.map_cons, List.flatten_cons, LinkParam.toList_render]
    simp only [List.append_assoc, List.cons_append]
    rw [← List.append_assoc front, List.splitOn_append_cons_self_of_not_mem
      (by simp [frontClean, beforeClean])]
    simp only [List.append_assoc] at rest
    rw [rest, paramPieces, firstBefore, List.append_assoc]

/-! ### One parameter -/

/-- Trimming characters of a class from both ends of a text whose own ends are not of it gives
the text back. -/
theorem trim_around (q : Char → Bool) {front core back : List Char} (frontIn : ∀ c ∈ front, q c)
    (backIn : ∀ c ∈ back, q c) (headOut : ∀ a ∈ core.head?, q a = false)
    (lastOut : ∀ b ∈ core.getLast?, q b = false) :
    (((front ++ core ++ back).dropWhile q).reverse.dropWhile q).reverse = core := by
  rw [List.append_assoc, List.dropWhile_append_of_pos frontIn]
  cases core with
  | nil =>
    rw [List.nil_append, (List.dropWhile_eq_nil_iff.mpr backIn)]
    rfl
  | cons a rest =>
    have tail : (a :: rest).reverse.dropWhile q = (a :: rest).reverse := by
      obtain ⟨b, last⟩ : ∃ b, (a :: rest).getLast? = some b :=
        Option.isSome_iff_exists.mp (by simp)
      obtain ⟨init, shape⟩ : ∃ init, (a :: rest).reverse = b :: init := by
        rw [← List.head?_reverse] at last
        cases h : (a :: rest).reverse with
        | nil => simp at h
        | cons x xs => rw [h] at last; cases last; exact ⟨xs, rfl⟩
      rw [shape, List.dropWhile_cons_of_neg (by simp [lastOut b last])]
    rw [List.cons_append, List.dropWhile_cons_of_neg (by simp [headOut a rfl]),
      ← List.cons_append, List.reverse_append,
      List.dropWhile_append_of_pos (by simpa using backIn), tail, List.reverse_reverse]

/-- A name without `=`, followed by nothing or by `=`, starts the text `rel=` only when it is
`rel`. -/
theorem eq_rel_of_append {name rest value : List Char} (noEq : '=' ∉ name)
    (restStart : ∀ a ∈ rest.head?, a = '=')
    (starts : name ++ rest = 'r' :: 'e' :: 'l' :: '=' :: value) :
    name = ['r', 'e', 'l'] ∧ rest = '=' :: value := by
  rcases name with _ | ⟨a, _ | ⟨b, _ | ⟨c, _ | ⟨d, name⟩⟩⟩⟩ <;> cases rest <;> simp_all

theorem ParamValue.solid_written {v : ParamValue} (readable : v.Readable) :
    ∀ b ∈ ('=' :: v.written.toList).getLast?, Text.isBlank b = false := by
  intro b last
  cases v with
  | token t =>
    rcases t.toList.eq_nil_or_concat with empty | ⟨init, c, shape⟩
    · rw [written, empty] at last
      cases last
      decide
    · rw [written, shape, List.concat_eq_append, ← List.cons_append, List.getLast?_concat] at last
      cases last
      exact (isTokenChar_spec (readable b (by simp [shape]))).2.1
  | quoted t =>
    have quote : "\"".toList = ['"'] := by decide
    rw [written, String.toList_append, String.toList_append, quote, ← List.cons_append,
      List.getLast?_concat] at last
    cases last
    decide

theorem LinkParam.core_solid {p : LinkParam} (readable : p.Readable) :
    (∀ a ∈ p.core.head?, Text.isBlank a = false) ∧
      ∀ b ∈ p.core.getLast?, Text.isBlank b = false := by
  have nameSolid : ∀ c ∈ p.name.toList, Text.isBlank c = false :=
    fun c mem => (isTokenChar_spec (readable.name c mem)).2.1
  constructor
  · intro a first
    rw [core, List.head?_append] at first
    cases h : p.name.toList.head? with
    | some x =>
      rw [h, Option.some_or] at first
      cases first
      exact nameSolid a (List.mem_of_mem_head? h)
    | none =>
      rw [h, Option.none_or] at first
      cases hv : p.value with
      | none => simp [hv] at first
      | some v =>
        rw [hv] at first
        cases first
        decide
  · intro b last
    cases hv : p.value with
    | none =>
      rw [core, hv] at last
      exact nameSolid b (List.mem_of_mem_getLast? (by simpa using last))
    | some v =>
      rw [core, hv, Option.map_some, Option.getD_some, List.getLast?_append] at last
      cases h : ('=' :: v.written.toList).getLast? with
      | none => simp at h
      | some x =>
        rw [h, Option.some_or] at last
        exact ParamValue.solid_written (readable.value v hv) b (h ▸ last)

theorem eq_rel_iff_toList {s : String} : s = "rel" ↔ s.toList = ['r', 'e', 'l'] := by
  rw [← String.toList_inj]
  rfl

/-- A parameter piece, between its whitespace, announces a next page exactly when the parameter
is named `rel` and its value announces it. -/
theorem relListsNext_piece {p : LinkParam} (readable : p.Readable) {ows : List Char}
    (blank : ∀ c ∈ ows, Text.isBlank c) :
    relListsNext (p.after.toList ++ p.core ++ ows) =
      (p.name == "rel" && p.value.any fun v => relValueListsNext v.written.toList) := by
  have afterBlank : ∀ c ∈ p.after.toList, Text.isBlank c :=
    fun c mem => (ows_spec (readable.after c mem)).2.1
  have noEq : '=' ∉ p.name.toList :=
    fun mem => (isTokenChar_spec (readable.name _ mem)).2.2.2.2.1 rfl
  have restStart : ∀ a ∈ ((p.value.map fun v => '=' :: v.written.toList).getD []).head?, a = '=' := by
    cases p.value <;> simp
  obtain ⟨headSolid, lastSolid⟩ := p.core_solid readable
  unfold relListsNext
  rw [trim_around Text.isBlank afterBlank blank headSolid lastSolid]
  split
  · next value starts =>
    obtain ⟨isRel, rest⟩ := eq_rel_of_append noEq restStart starts
    cases hv : p.value with
    | none => simp [hv] at rest
    | some v =>
      simp only [hv, Option.map_some, Option.getD_some, List.cons.injEq, true_and] at rest
      simp [eq_rel_iff_toList.mpr isRel, rest]
  · next notRel =>
    symm
    cases hv : p.value with
    | none => simp
    | some v =>
      rw [Bool.and_eq_false_iff]
      left
      rw [beq_eq_false_iff_ne]
      intro isRel
      apply notRel v.written.toList
      rw [LinkParam.core, hv, eq_rel_iff_toList.mp isRel]
      rfl

/-! ### The relation types of a value -/

theorem splitOnP_congr {α : Type} {p q : α → Bool} :
    ∀ {xs : List α}, (∀ c ∈ xs, p c = q c) → xs.splitOnP p = xs.splitOnP q
  | [], _ => rfl
  | x :: xs, same => by
    rw [List.splitOnP_cons_eq_if_modifyHead, List.splitOnP_cons_eq_if_modifyHead,
      same x (List.mem_cons_self ..), splitOnP_congr fun c mem => same c (List.mem_cons_of_mem _ mem)]

theorem isBlank_of_visible {c : Char} (visible : 0x20 ≤ c.toNat ∧ c.toNat ≤ 0x7E) :
    Text.isBlank c = (c == ' ') := by
  by_cases space : c = ' '
  · subst space
    decide
  · have : c.toNat ≠ 0x20 := fun h => space (Char.toNat_inj.mp h)
    rw [beq_false_of_ne space]
    simp only [Text.isBlank, Bool.or_eq_false_iff, decide_eq_false_iff_not, beq_eq_false_iff_ne]
    omega

/-- What a readable value says: its characters, none of them a quote, and blank only where they
are spaces. -/
theorem ParamValue.content_chars {v : ParamValue} (readable : v.Readable) :
    ∀ c ∈ v.content.toList, c ≠ '"' ∧ Text.isBlank c = (c == ' ') := by
  intro c mem
  cases v with
  | token t =>
    obtain ⟨-, notBlank, -, -, -, notQuote⟩ := isTokenChar_spec (readable c mem)
    refine ⟨notQuote, ?_⟩
    rw [notBlank, beq_false_of_ne]
    rintro rfl
    exact absurd notBlank (by decide)
  | quoted t =>
    obtain ⟨low, high, notQuote, -⟩ := readable c mem
    exact ⟨notQuote, isBlank_of_visible ⟨low, high⟩⟩

theorem ParamValue.unquote_written {v : ParamValue} (readable : v.Readable) :
    ((v.written.toList.dropWhile (· == '"')).reverse.dropWhile (· == '"')).reverse =
      v.content.toList := by
  have quoteFree : ∀ c ∈ v.content.toList, (c == '"') = false :=
    fun c mem => beq_false_of_ne (v.content_chars readable c mem).1
  have headOut : ∀ a ∈ v.content.toList.head?, (a == '"') = false :=
    fun a first => quoteFree a (List.mem_of_mem_head? first)
  have lastOut : ∀ b ∈ v.content.toList.getLast?, (b == '"') = false :=
    fun b last => quoteFree b (List.mem_of_mem_getLast? last)
  cases v with
  | token t =>
    simpa [written, content] using
      @trim_around (· == '"') [] _ [] (by simp) (by simp) headOut lastOut
  | quoted t =>
    have quote : "\"".toList = ['"'] := by decide
    rw [written, String.toList_append, String.toList_append, quote]
    exact trim_around (· == '"') (by simp) (by simp) headOut lastOut

theorem toLower_beq_next (w : List Char) :
    ((String.ofList w).toLower == "next") = (w.map Char.toLower == "next".toList) := by
  rw [Bool.eq_iff_iff, beq_iff_eq, beq_iff_eq, ← String.toList_inj, String.toLower,
    String.toList_map, String.toList_ofList]

/-- A readable `rel` value announces a next page exactly when it lists the relation type `next`. -/
theorem relValueListsNext_written {v : ParamValue} (readable : v.Readable) :
    relValueListsNext v.written.toList = v.relationTypes.any (·.toLower == "next") := by
  have words : v.content.toList.splitOnP Text.isBlank = v.content.toList.splitOn ' ' := by
    rw [List.splitOn_eq_splitOnP]
    exact splitOnP_congr fun c mem => (v.content_chars readable c mem).2
  rw [relValueListsNext, ParamValue.unquote_written readable, words, ParamValue.relationTypes,
    List.any_map, List.any_filter]
  congr 1
  funext w
  rw [Function.comp_apply, toLower_beq_next]
  cases w <;> simp

/-! ### Commas -/

theorem ParamValue.written_chars {v : ParamValue} (readable : v.Readable) :
    ∀ c ∈ v.written.toList, isHeaderChar c ∧ c ≠ ',' ∧ c ≠ ';' := by
  intro c mem
  cases v with
  | token t =>
    obtain ⟨header, -, comma, semicolon, -⟩ := isTokenChar_spec (readable c mem)
    exact ⟨header, comma, semicolon⟩
  | quoted t =>
    have quote : "\"".toList = ['"'] := by decide
    rw [written, String.toList_append, String.toList_append, quote] at mem
    simp only [List.mem_append, List.mem_singleton] at mem
    rcases mem with (rfl | inner) | rfl
    · decide
    · obtain ⟨low, high, -, -, comma, semicolon⟩ := readable c inner
      refine ⟨?_, comma, semicolon⟩
      simp only [isHeaderChar, Bool.or_eq_true, Bool.and_eq_true, decide_eq_true_eq]
      omega
    · decide

theorem LinkParam.body_chars {p : LinkParam} (readable : p.Readable) :
    ∀ c ∈ p.after.toList ++ p.core, isHeaderChar c ∧ c ≠ ',' ∧ c ≠ ';' := by
  intro c mem
  simp only [List.mem_append, core] at mem
  rcases mem with after | name | rest
  · obtain ⟨header, -, comma, semicolon⟩ := ows_spec (readable.after c after)
    exact ⟨header, comma, semicolon⟩
  · obtain ⟨header, -, comma, semicolon, -⟩ := isTokenChar_spec (readable.name c name)
    exact ⟨header, comma, semicolon⟩
  · cases hv : p.value with
    | none => simp [hv] at rest
    | some v =>
      simp only [hv, Option.map_some, Option.getD_some, List.mem_cons] at rest
      rcases rest with rfl | written
      · decide
      · exact v.written_chars (readable.value v hv) c written

theorem LinkValue.render_chars {l : LinkValue} (readable : l.Readable) :
    ∀ c ∈ l.render.toList, isHeaderChar c ∧ c ≠ ',' := by
  intro c mem
  simp only [LinkValue.toList_render, List.mem_append, List.mem_cons, List.mem_flatten,
    List.mem_map] at mem
  rcases mem with (((lead | rfl | target) | rfl | absurd) | ⟨_, ⟨p, param, rfl⟩, inParam⟩) | trail
  · exact ⟨(ows_spec (readable.lead c lead)).1, (ows_spec (readable.lead c lead)).2.2.1⟩
  · decide
  · exact ⟨(readable.target c target).1, (readable.target c target).2.1⟩
  · decide
  · simp at absurd
  · have paramReadable := readable.params p param
    rw [LinkParam.toList_render, List.mem_append, List.mem_cons] at inParam
    rcases inParam with before | rfl | body
    · exact ⟨(ows_spec (paramReadable.before c before)).1,
        (ows_spec (paramReadable.before c before)).2.2.1⟩
    · decide
    · exact ⟨(p.body_chars paramReadable c body).1, (p.body_chars paramReadable c body).2.1⟩
  · exact ⟨(ows_spec (readable.trail c trail)).1, (ows_spec (readable.trail c trail)).2.2.1⟩

/-! ### Link-values and field values -/

def LinkParam.relNext (p : LinkParam) : Bool :=
  p.name == "rel" && p.value.any fun v => v.relationTypes.any (·.toLower == "next")

theorem paramPieces_any {trail : List Char} (trailBlank : ∀ c ∈ trail, Text.isBlank c) :
    ∀ (ps : List LinkParam), (∀ p ∈ ps, p.Readable) →
      (paramPieces ps trail).any relListsNext = ps.any LinkParam.relNext
  | [], _ => rfl
  | p :: ps, readable => by
    have pReadable := readable p (List.mem_cons_self ..)
    have nextBlank : ∀ c ∈ firstBefore ps trail, Text.isBlank c := by
      cases ps with
      | nil => exact trailBlank
      | cons q _ =>
        exact fun c mem => (ows_spec ((readable q (by simp)).before c mem)).2.1
    rw [paramPieces, List.any_cons, List.any_cons, relListsNext_piece pReadable nextBlank,
      paramPieces_any trailBlank ps fun q mem => readable q (List.mem_cons_of_mem _ mem)]
    cases hv : p.value with
    | none => simp [LinkParam.relNext, hv]
    | some v => simp [LinkParam.relNext, hv, relValueListsNext_written (pReadable.value v hv)]

/-- In a list where at most one element passes a test, what the first passing element satisfies
is what some passing element satisfies. -/
theorem find?_any_of_filter_length_le_one {α : Type} {q f : α → Bool} :
    ∀ {l : List α}, (l.filter q).length ≤ 1 → (l.find? q).any f = l.any (fun x => q x && f x)
  | [], _ => rfl
  | x :: xs, atMostOne => by
    by_cases passes : q x
    · have none : ∀ y ∈ xs, q y = false := by
        rw [List.filter_cons_of_pos passes, List.length_cons] at atMostOne
        have empty : xs.filter q = [] := List.eq_nil_of_length_eq_zero (by omega)
        simpa [List.filter_eq_nil_iff] using empty
      have rest : xs.any (fun x => q x && f x) = false := by
        simp only [List.any_eq_false]
        intro y mem
        simp [none y mem]
      simp [passes, rest]
    · rw [List.filter_cons_of_neg passes] at atMostOne
      simp [passes, find?_any_of_filter_length_le_one atMostOne]

theorem toLower_of_lower {s : String} (lowered : s.toList.map Char.toLower = s.toList) :
    s.toLower = s := by
  rw [← String.toList_inj, String.toLower, String.toList_map, lowered]

theorem LinkParam.toLower_beq_rel {p : LinkParam} (readable : p.Readable) :
    (p.name.toLower == "rel") = (p.name == "rel") := by
  by_cases isRel : p.name = "rel"
  · rw [isRel, toLower_of_lower (by decide)]
  · rw [beq_false_of_ne isRel, beq_false_of_ne (mt readable.rel_lower isRel)]

theorem any_eq_any_of_mem {α : Type} {p q : α → Bool} :
    ∀ {l : List α}, (∀ a ∈ l, p a = q a) → l.any p = l.any q
  | [], _ => rfl
  | a :: l, same => by
    rw [List.any_cons, List.any_cons, same a (List.mem_cons_self ..),
      any_eq_any_of_mem fun b mem => same b (List.mem_cons_of_mem _ mem)]

theorem LinkValue.listsNext_eq {l : LinkValue} (readable : l.Readable) :
    l.listsNext = l.params.any LinkParam.relNext := by
  rw [listsNext, Option.any_bind, find?_any_of_filter_length_le_one readable.one_rel]
  refine any_eq_any_of_mem fun p mem => ?_
  rw [LinkParam.relNext, ← LinkParam.toLower_beq_rel (readable.params p mem)]
  rfl

theorem LinkValue.pieces_any_relListsNext {l : LinkValue} (readable : l.Readable) :
    ((l.render.toList.splitOn ';').drop 1).any relListsNext = l.listsNext := by
  have trailBlank : ∀ c ∈ l.trail.toList, Text.isBlank c :=
    fun c mem => (ows_spec (readable.trail c mem)).2.1
  have trailClean : ';' ∉ l.trail.toList := fun mem => (ows_spec (readable.trail _ mem)).2.2.2 rfl
  have leadClean : ';' ∉ l.lead.toList := fun mem => (ows_spec (readable.lead _ mem)).2.2.2 rfl
  have targetClean : ';' ∉ l.target.toList := fun mem => (readable.target _ mem).2.2 rfl
  have frontClean : ';' ∉ l.lead.toList ++ '<' :: l.target.toList ++ ['>'] := by
    simp [leadClean, targetClean]
  have paramsClean : ∀ p ∈ l.params, ';' ∉ p.before.toList ∧ ';' ∉ p.after.toList ++ p.core :=
    fun p mem => ⟨fun inBefore => (ows_spec ((readable.params p mem).before _ inBefore)).2.2.2 rfl,
      fun inBody => (p.body_chars (readable.params p mem) _ inBody).2.2 rfl⟩
  rw [LinkValue.toList_render, splitOn_params _ trailClean _ _ frontClean paramsClean, List.drop_one,
    List.tail_cons, paramPieces_any trailBlank _ readable.params, listsNext_eq readable]

theorem all_intercalate {α : Type} {p : α → Bool} {sep : List α} (sepAll : sep.all p) :
    ∀ {ls : List (List α)}, (∀ l ∈ ls, l.all p) → (sep.intercalate ls).all p
  | [], _ => rfl
  | [l], each => by
    rw [List.intercalate_singleton]
    exact each l (List.mem_singleton_self l)
  | l :: l' :: ls, each => by
    have rest : (sep.intercalate (l' :: ls)).all p :=
      all_intercalate sepAll fun w mem => each w (List.mem_cons_of_mem _ mem)
    rw [List.intercalate_cons_cons, List.all_append, List.all_append, each l (List.mem_cons_self ..),
      sepAll, rest]
    rfl

/-- A field value written from readable link-values reads as having a next page exactly when one
of them has relation type `next`. -/
theorem linkHasNext_renderLinks (links : List LinkValue) (readable : ∀ l ∈ links, l.Readable) :
    linkHasNext (renderLinks links) = links.any LinkValue.listsNext := by
  cases links with
  | nil => decide
  | cons l ls =>
    have comma : ",".toList = [','] := by decide
    have chars : (renderLinks (l :: ls)).toList =
        [','].intercalate ((l :: ls).map (·.render.toList)) := by
      rw [renderLinks, String.toList_intercalate, comma, List.map_map]
      rfl
    have allHeader : ([','].intercalate ((l :: ls).map (·.render.toList))).all isHeaderChar := by
      refine all_intercalate (by decide) fun w mem => ?_
      obtain ⟨l', mem', rfl⟩ := List.mem_map.mp mem
      exact List.all_eq_true.mpr fun c inRender => (LinkValue.render_chars (readable l' mem') c inRender).1
    have noComma : ∀ w ∈ (l :: ls).map (·.render.toList), ',' ∉ w := by
      intro w mem inW
      obtain ⟨l', mem', rfl⟩ := List.mem_map.mp mem
      exact (LinkValue.render_chars (readable l' mem') ',' inW).2 rfl
    rw [linkHasNext, chars, allHeader, Bool.true_and, List.splitOn_intercalate ',' noComma (by simp),
      List.any_map]
    exact any_eq_any_of_mem fun l' mem => LinkValue.pieces_any_relListsNext (readable l' mem)

/-! ### Reading an answer -/

theorem Client.hasNext_of_read {c : Client} {m : Remote.Method} {endpoint : String} {url : Url}
    {r : WireResponse} {resp : Remote.Response} (read : c.read m endpoint url (some r) = .ok resp) :
    resp.hasNext = r.links.any linkHasNext := by
  simp only [Client.read] at read
  split_ifs at read with refused failed blank
  · rw [← Except.ok.inj read]
  · split at read
    · rw [← Except.ok.inj read]
    · cases read

/-- On an answer whose `Link` header lines are field values written from readable link-values,
each line reads as having a next page exactly when one of its link-values has relation type
`next`, and so does the answer the client reads. -/
theorem readable_links_announce_next_relation (fields : List (List LinkValue))
    (readable : ∀ links ∈ fields, ∀ l ∈ links, l.Readable) (c : Client) (m : Remote.Method)
    (endpoint : String) (url : Url) (status : Nat) (body : String) (resp : Remote.Response)
    (read : c.read m endpoint url (some { status, links := fields.map renderLinks, body }) = .ok resp) :
    (∀ links ∈ fields, linkHasNext (renderLinks links) = links.any LinkValue.listsNext) ∧
      resp.hasNext = fields.any fun links => links.any LinkValue.listsNext := by
  have lines : ∀ links ∈ fields, linkHasNext (renderLinks links) = links.any LinkValue.listsNext :=
    fun links mem => linkHasNext_renderLinks links (readable links mem)
  refine ⟨lines, ?_⟩
  rw [Client.hasNext_of_read read, List.any_map]
  exact any_eq_any_of_mem lines

def nextPageLink : LinkValue where
  lead := ""
  target := "/y"
  params := [{ before := "", after := " ", name := "rel", value := some (.quoted "next") }]
  trail := ""

/-- A property of every character of a list, checked character by character. (Deciding it
directly would go through every character there is.) -/
theorem forall_mem_of_all {l : List Char} {P : Char → Prop} [DecidablePred P]
    (checked : (l.all fun c => decide (P c)) = true) : ∀ c ∈ l, P c :=
  fun c mem => of_decide_eq_true (List.all_eq_true.mp checked c mem)

theorem nextPageLink_readable : nextPageLink.Readable where
  lead := by simp [IsOws, nextPageLink]
  trail := by simp [IsOws, nextPageLink]
  target := forall_mem_of_all (by decide)
  params := by
    intro p mem
    rw [nextPageLink, List.mem_singleton] at mem
    subst mem
    exact { before := by simp [IsOws], after := forall_mem_of_all (by decide),
            name := forall_mem_of_all (by decide),
            value := by rintro v ⟨⟩; exact forall_mem_of_all (by decide), rel_lower := fun _ => rfl }
  one_rel := (List.length_filter_le _ _).trans (by simp [nextPageLink])

theorem readable_links_announce_next_relation_on_next_page :
    (∀ links ∈ [[nextPageLink]], ∀ l ∈ links, l.Readable) ∧
      ({ base := "", token := none } : Client).read .get "issues" default
        (some { status := 200, links := [[nextPageLink]].map renderLinks, body := "" }) =
        .ok { body := .null, hasNext := true } ∧
      ((∀ links ∈ [[nextPageLink]], linkHasNext (renderLinks links) = links.any LinkValue.listsNext) ∧
        true = [[nextPageLink]].any fun links => links.any LinkValue.listsNext) := by
  have readable : ∀ links ∈ [[nextPageLink]], ∀ l ∈ links, l.Readable := by
    intro links inFields l inLinks
    rw [List.mem_singleton] at inFields
    subst inFields
    rw [List.mem_singleton] at inLinks
    subst inLinks
    exact nextPageLink_readable
  have blank : Text.isBlankText "" = true := by decide
  have next : linkHasNext (renderLinks [nextPageLink]) = true := by
    unfold nextPageLink
    decide
  have read : ({ base := "", token := none } : Client).read .get "issues" default
      (some { status := 200, links := [[nextPageLink]].map renderLinks, body := "" }) =
      .ok { body := .null, hasNext := true } := by
    simp [Client.read, blank, next]
  exact ⟨readable, read, readable_links_announce_next_relation [[nextPageLink]] readable _ _ _ _ _ _ _ read⟩

/-- A link whose quoted title holds a semicolon and `rel=next`: `</y>; title="a; rel=next"`.
It has no relation type at all. -/
def quotedTitleLink : LinkValue where
  lead := ""
  target := "/y"
  params := [{ before := "", after := " ", name := "title", value := some (.quoted "a; rel=next") }]
  trail := ""

theorem quoted_semicolon_reads_as_next :
    linkHasNext (renderLinks [quotedTitleLink]) = true ∧ quotedTitleLink.listsNext = false := by
  have title : "title".toLower = "title" := toLower_of_lower (by decide)
  constructor
  · unfold quotedTitleLink
    decide
  · simp [LinkValue.listsNext, quotedTitleLink, title]

end TrackerSync.Http
