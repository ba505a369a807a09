import TraceAgent.Proofs.General
import TraceAgent.Proofs.Propagation.Headers

/-! Which headers name an origin, and which origin each of them names.

The texts that are read are those of a grammar, and each of them says every field
of one origin. The header that such an origin is given differs from the text that
was read at most in the sampling flag and in the spelling of the span id.
-/

set_option autoImplicit false

namespace TraceAgent

namespace Propagation.Origin

def divided (text : String) : List (List Char) := text.toList.splitOn '-'

/-- The texts that name an origin: seven dashes, between them six texts in base64 and, in the
fourth place, a number of 32 bits. The first part is the sampling flag and may be anything. -/
structure InGrammar (text : String) : Prop where
  dashes : text.toList.count '-' = 7
  texts : ∀ place ∈ [1, 2, 4, 5, 6, 7],
    ∃ written : String, (divided text)[place]? = some (Base64.encodeText written)
  number : ∃ numeral, (divided text)[3]? = some numeral ∧ (Numeral.signed? 32 numeral).isSome

def fieldsWith (origin : Origin) (flag numeral : List Char) : List (List Char) :=
  [flag, Base64.encodeText origin.traceId, Base64.encodeText origin.segmentId, numeral,
    Base64.encodeText origin.service, Base64.encodeText origin.instanceName,
    Base64.encodeText origin.endpoint, Base64.encodeText origin.address]

theorem fields_eq (origin : Origin) :
    origin.fields = origin.fieldsWith ['1'] (Numeral.ofInt origin.spanId) := rfl

/-- What a text of the grammar says: each of its parts but the flag belongs to a field. -/
def Spells (text : String) (origin : Origin) : Prop :=
  ∃ flag numeral, Numeral.signed? 32 numeral = some origin.spanId ∧
    divided text = origin.fieldsWith flag numeral

def restated (text : String) : String :=
  String.ofList (['-'].intercalate (((divided text).set 0 ['1']).modify 3 Numeral.bare))

variable {text : String} {origin : Origin}

theorem ofFields?_eq_some {fields : List (List Char)} :
    ofFields? fields = some origin ↔ ∃ flag numeral,
      Numeral.signed? 32 numeral = some origin.spanId ∧
        fields = origin.fieldsWith flag numeral := by
  constructor
  · intro reads
    unfold ofFields? at reads
    split at reads
    next flag traceId segmentId spanId service instanceName endpoint address =>
      simp only [Option.bind_eq_bind, Option.bind_eq_some_iff, Base64.decodeText?_eq_some] at reads
      obtain ⟨_, rfl, _, rfl, n, number, _, rfl, _, rfl, _, rfl, _, rfl, same⟩ := reads
      cases same
      exact ⟨flag, spanId, number, rfl⟩
    next => cases reads
  · rintro ⟨flag, numeral, number, rfl⟩
    simp [ofFields?, fieldsWith, Base64.decodeText?_encodeText, number]

/-- What is read is what the text spells. -/
theorem read?_eq_some : read? text = some origin ↔ Spells text origin := ofFields?_eq_some

theorem length_divided : (divided text).length = text.toList.count '-' + 1 :=
  length_splitOn '-' text.toList

/-- The texts that name an origin are those of the grammar. -/
theorem exists_spells : (∃ origin, Spells text origin) ↔ InGrammar text := by
  constructor
  · rintro ⟨origin, flag, numeral, number, parts⟩
    have eight := @length_divided text
    rw [parts] at eight
    exact
      { dashes := by simpa [fieldsWith] using eight.symm
        texts := by simp [parts, fieldsWith]
        number := ⟨numeral, by simp [parts, fieldsWith], by simp [number]⟩ }
  · rintro ⟨dashes, texts, numeral, fourth, number⟩
    have eight : (divided text).length = 8 := by rw [length_divided, dashes]
    obtain ⟨spanId, number⟩ := Option.isSome_iff_exists.mp number
    simp only [List.forall_mem_cons] at texts
    obtain ⟨⟨traceId, second⟩, ⟨segmentId, third⟩, ⟨service, fifth⟩, ⟨instanceName, sixth⟩,
      ⟨endpoint, seventh⟩, ⟨address, eighth⟩, -⟩ := texts
    refine ⟨⟨traceId, segmentId, spanId, service, instanceName, endpoint, address⟩,
      (divided text)[0], numeral, number, ?_⟩
    -- The eight places are all that there is.
    apply List.ext_getElem?
    intro place
    match place with
    | 0 => simp [fieldsWith]
    | 1 => simpa [fieldsWith] using second
    | 2 => simpa [fieldsWith] using third
    | 3 => simpa [fieldsWith] using fourth
    | 4 => simpa [fieldsWith] using fifth
    | 5 => simpa [fieldsWith] using sixth
    | 6 => simpa [fieldsWith] using seventh
    | 7 => simpa [fieldsWith] using eighth
    | _ + 8 => simp [fieldsWith, eight]

namespace Spells

variable (spells : Spells text origin)
include spells

theorem read?_eq : read? text = some origin := read?_eq_some.mpr spells

theorem receive_eq (earlier : Origin) : earlier.receive (some text) = origin := by
  simp [receive, spells.read?_eq]

theorem number_bare : ∃ flag numeral, 0 ≤ origin.spanId ∧
    Numeral.ofInt origin.spanId = Numeral.bare numeral ∧
    divided text = origin.fieldsWith flag numeral := by
  obtain ⟨flag, numeral, number, parts⟩ := spells
  have part : numeral ∈ divided text := by simp [parts, fieldsWith]
  have undashed := divider_not_mem_splitOn '-' text.toList numeral part
  obtain ⟨natural, bare⟩ := Numeral.ofInt_of_signed? undashed number
  exact ⟨flag, numeral, natural, bare, parts⟩

theorem spanId_nonneg : 0 ≤ origin.spanId := by
  obtain ⟨_, _, natural, -⟩ := spells.number_bare
  exact natural

theorem write_eq (valid : origin.isValid) : origin.write = restated text := by
  obtain ⟨flag, numeral, -, bare, parts⟩ := spells.number_bare
  simp [write, valid, restated, parts, fields_eq, fieldsWith, bare]

end Spells

/-- An origin that is not valid has no header, and the empty text names no origin. -/
theorem receive_write_of_not_isValid (invalid : ¬ origin.isValid) (earlier : Origin) :
    origin.write = "" ∧ earlier.receive (some origin.write) = earlier := by
  have blank : origin.write = "" := if_neg invalid
  refine ⟨blank, ?_⟩
  rw [blank]
  rfl

/-- Headers are read by the grammar. A text in it says every field of an origin, with a span id that
is not negative, and if that origin is valid then its header restates the text. A text outside of it
changes nothing. Of what is written, a valid origin is read back, whatever was known before, and one
that is not valid is written as the empty text, which changes nothing. -/
theorem receive_by_grammar :
    (∀ text, InGrammar text → ∃ stated, Spells text stated ∧ 0 ≤ stated.spanId ∧
      (∀ origin, receive origin (some text) = stated) ∧
      (stated.isValid → stated.write = restated text)) ∧
    (∀ text, ¬ InGrammar text → ∀ origin, receive origin (some text) = origin) ∧
    (∀ stated : Origin, stated.isValid → Numeral.InWidth 32 stated.spanId →
      ∀ origin, receive origin (some stated.write) = stated) ∧
    (∀ stated : Origin, ¬ stated.isValid →
      stated.write = "" ∧ ∀ origin, receive origin (some stated.write) = origin) := by
  refine ⟨fun text inside => ?_, fun text outside origin => ?_, fun stated valid fits origin => ?_,
    fun stated invalid => ?_⟩
  · obtain ⟨stated, spells⟩ := exists_spells.mpr inside
    exact ⟨stated, spells, spells.spanId_nonneg, spells.receive_eq, spells.write_eq⟩
  · have unread : read? text = none := Option.eq_none_iff_forall_ne_some.mpr fun stated reads =>
      outside (exists_spells.mp ⟨stated, read?_eq_some.mp reads⟩)
    simp [receive, unread]
  · simp [receive, read?_write valid fits]
  · exact ⟨(receive_write_of_not_isValid invalid stated).1,
      fun origin => (receive_write_of_not_isValid invalid origin).2⟩

def foreignHeader : String := "0-dA==-cw==-+007-c3Zj-aW5zdA==-L2Vw-aG9zdDo4MA=="

def foreignOrigin : Origin where
  traceId := "t"
  segmentId := "s"
  spanId := 7
  service := "svc"
  instanceName := "inst"
  endpoint := "/ep"
  address := "host:80"

/-- A header with a sign and zeros before its number is taken over and restated without them. One
that is cut short is passed over, and so is what is written of an origin that says nothing. -/
theorem foreignHeader_received :
    InGrammar foreignHeader ∧
    (∀ origin, receive origin (some foreignHeader) = foreignOrigin) ∧
    foreignOrigin.write = "1-dA==-cw==-7-c3Zj-aW5zdA==-L2Vw-aG9zdDo4MA==" ∧
    (∀ origin, receive origin (some foreignOrigin.write) = foreignOrigin) ∧
    (∀ origin, receive origin (some "1-dA==-cw==-0") = origin) ∧
    ∀ origin, receive origin (some (write {})) = origin := by
  obtain ⟨inside, outside, back, blank⟩ := receive_by_grammar
  have reads : read? foreignHeader = some foreignOrigin := by decide +kernel
  have named : InGrammar foreignHeader := exists_spells.mp ⟨_, read?_eq_some.mp reads⟩
  have cut : ¬ InGrammar "1-dA==-cw==-0" := fun grammar => absurd grammar.dashes (by decide)
  have valid : foreignOrigin.isValid := by decide
  obtain ⟨stated, spelled, -, received, restates⟩ := inside _ named
  obtain rfl := Option.some.inj (reads.symm.trans spelled.read?_eq)
  exact ⟨named, received, (restates valid).trans (by decide +kernel), back _ valid (by decide),
    outside _ cut, (blank {} (by decide)).2⟩

end Propagation.Origin

end TraceAgent
