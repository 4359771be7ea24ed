import StyleBuild.Proofs.ResolvedPaths
import StyleBuild.Proofs.FoundFiles

/-!
# Dialects of URLs

In the canonical URL of a path every octet is escaped that means something in a URL, but points, slashes and letters
stand for themselves. So the last segment of the URL has the suffix of the name, escaped, and shows the same dialect:
a file that is loaded and its text under the file's URL are parsed alike.
-/

set_option autoImplicit false

namespace StyleBuild

/-! ## Octets that stand for themselves -/

namespace Text.Utf8

theorem encode_append (cs ds : List Char) : encode (cs ++ ds) = encode cs ++ encode ds :=
  List.flatMap_append

/-- The octets of characters outside ASCII are outside ASCII as well. -/
theorem large_of_mem {c : Char} (foreign : 128 ≤ c.toNat) {b : UInt8}
    (there : b ∈ String.utf8EncodeChar c) : 128 ≤ b.toNat := by
  have octet : ∀ n, b = UInt8.ofNat n → 128 ≤ n ∧ n < 256 → 128 ≤ b.toNat := by
    rintro n rfl ⟨large, bounded⟩
    rw [toNat_octet bounded]
    exact large
  have long : ¬ c.val.toNat ≤ 127 := Nat.not_le.mpr foreign
  rw [String.utf8EncodeChar, if_neg long] at there
  generalize c.val.toNat = v at there
  split at there
  · simp only [List.mem_cons, List.not_mem_nil, or_false] at there
    rcases there with first | second
    · exact octet _ first (by omega)
    · exact octet _ second (by omega)
  · split at there
    · simp only [List.mem_cons, List.not_mem_nil, or_false] at there
      rcases there with first | second | third
      · exact octet _ first (by omega)
      · exact octet _ second (by omega)
      · exact octet _ third (by omega)
    · simp only [List.mem_cons, List.not_mem_nil, or_false] at there
      rcases there with first | second | third | fourth
      · exact octet _ first (by omega)
      · exact octet _ second (by omega)
      · exact octet _ third (by omega)
      · exact octet _ fourth (by omega)

end Text.Utf8

namespace Url

theorem quote_append (cs ds : List Char) : quote (cs ++ ds) = quote cs ++ quote ds := by
  rw [quote, Text.Utf8.encode_append, List.flatMap_append, quote, quote]

theorem quote_inj {cs ds : List Char} : quote cs = quote ds ↔ cs = ds := by
  constructor
  · intro same
    rw [← unquote_quote cs, same, unquote_quote]
  · rintro rfl
    rfl

/-- A character that is written as it is. -/
def isPlain (c : Char) : Bool := isAscii c && isPlainOctet (UInt8.ofNat c.toNat)

theorem isPlain_iff {c : Char} :
    isPlain c = true ↔ c.toNat < 128 ∧ isPlainOctet (UInt8.ofNat c.toNat) = true := by
  rw [isPlain, Bool.and_eq_true, isAscii, decide_eq_true_eq]

theorem quote_of_plain {cs : List Char} (plain : ∀ c ∈ cs, isPlain c = true) : quote cs = cs := by
  induction cs with
  | nil => rfl
  | cons c rest ih =>
    rw [List.forall_mem_cons, isPlain_iff] at plain
    obtain ⟨⟨small, itself⟩, later⟩ := plain
    have octet : (UInt8.ofNat c.toNat).toNat = c.toNat := Text.Utf8.toNat_octet (by omega)
    have first : quote [c] = [c] := by
      rw [quote, Text.Utf8.encode, List.flatMap_singleton, Text.Utf8.utf8EncodeChar_ascii small,
        List.flatMap_singleton, quoteOctet, if_pos itself, octet, Char.ofNat_toNat]
    rw [← List.singleton_append, quote_append, first, ih later]

theorem quote_eq_iff {cs ds : List Char} (plain : ∀ c ∈ ds, isPlain c = true) : quote cs = ds ↔ cs = ds := by
  have itself := quote_of_plain plain
  constructor
  · intro same
    exact quote_inj.mp (same.trans itself.symm)
  · rintro rfl
    exact itself

theorem toNat_lt_of_isPlainOctet {b : UInt8} (plain : isPlainOctet b = true) : b.toNat < 128 :=
  forall_octet (P := fun b => isPlainOctet b = true → b.toNat < 128) (by decide +kernel) b plain

/-- Any other character brings a percent sign. -/
theorem percent_mem_quote {cs : List Char} {c : Char} (there : c ∈ cs) (other : ¬ isPlain c = true) :
    '%' ∈ quote cs := by
  obtain ⟨b, octet, marked⟩ : ∃ b ∈ String.utf8EncodeChar c, ¬ isPlainOctet b = true := by
    obtain ⟨b, more, octets, -⟩ := Text.Utf8.step_utf8EncodeChar c []
    have octet : b ∈ String.utf8EncodeChar c := octets ▸ List.mem_cons_self
    refine ⟨b, octet, fun plain => other ?_⟩
    by_cases small : c.toNat < 128
    · rw [Text.Utf8.utf8EncodeChar_ascii small, List.mem_singleton] at octet
      exact isPlain_iff.mpr ⟨small, octet ▸ plain⟩
    · have large := Text.Utf8.large_of_mem (Nat.not_lt.mp small) octet
      exact absurd (toNat_lt_of_isPlainOctet plain) (Nat.not_lt.mpr large)
  refine List.mem_flatMap.mpr ⟨b, List.mem_flatMap.mpr ⟨c, there, octet⟩, ?_⟩
  rw [quoteOctet, if_neg marked]
  exact List.mem_cons_self

/-- Points and slashes are written for points and slashes only. -/
theorem mem_of_mem_quote {mark : Char} (separates : mark = '.' ∨ mark = '/') {cs : List Char}
    (there : mark ∈ quote cs) : mark ∈ cs := by
  obtain ⟨b, octet, written⟩ := List.mem_flatMap.mp there
  have own : b.toNat = mark.toNat := by
    have each := forall_octet (P := fun b => ('.' ∈ quoteOctet b → b.toNat = '.'.toNat) ∧
      ('/' ∈ quoteOctet b → b.toNat = '/'.toNat)) (by decide +kernel) b
    rcases separates with rfl | rfl
    · exact each.1 written
    · exact each.2 written
  have below : mark.toNat < 128 := by
    rcases separates with rfl | rfl <;> decide
  obtain ⟨c, inside, octet⟩ := List.mem_flatMap.mp octet
  by_cases small : c.toNat < 128
  · rw [Text.Utf8.utf8EncodeChar_ascii small, List.mem_singleton] at octet
    have same : c.toNat = mark.toNat := by
      rw [← own, octet, Text.Utf8.toNat_octet (by omega)]
    rwa [← Char.toNat_inj.mp same]
  · have large := Text.Utf8.large_of_mem (Nat.not_lt.mp small) octet
    omega

end Url

/-! ## Suffixes -/

namespace Path

theorem suffixOf_quote (cs : List Char) : suffixOf (Url.quote cs) = Url.quote (suffixOf cs) := by
  by_cases pointed : '.' ∈ cs
  · -- the last point of the name is the last point of what is written for it
    obtain ⟨front, back, split, last⟩ := List.eq_append_cons_of_mem (List.mem_reverse.mpr pointed)
    have shape : cs = back.reverse ++ '.' :: front.reverse := by
      simpa using congrArg List.reverse split
    generalize back.reverse = stem at shape
    have pointless : '.' ∉ front.reverse := fun there => last (List.mem_reverse.mp there)
    generalize front.reverse = e at shape pointless
    have point : ∀ ds, Url.quote ('.' :: ds) = '.' :: Url.quote ds := Url.quote_append ['.']
    have empty : ∀ ds, Url.quote ds = [] ↔ ds = [] := fun ds => Url.quote_eq_iff (by simp)
    rw [shape, Url.quote_append, point,
      suffixOf_point (fun there => pointless (Url.mem_of_mem_quote (.inl rfl) there)),
      suffixOf_point pointless]
    simp only [empty]
    split
    · rfl
    · rw [point]
  · rw [suffixOf_of_pointless pointed, suffixOf_of_pointless
      fun there => pointed (Url.mem_of_mem_quote (.inl rfl) there)]
    rfl

end Path

namespace Url

theorem isPlain_of_toLower {c : Char} (plain : isPlain c.toLower = true) : isPlain c = true := by
  by_cases ascii : c.toNat < 128
  · have all : ∀ n : Fin 128, isPlain (Char.ofNat n).toLower = true → isPlain (Char.ofNat n) = true := by
      decide +kernel
    have here := all ⟨c.toNat, ascii⟩
    rw [Char.ofNat_toNat] at here
    exact here plain
  · have same : c.toLower = c := by
      unfold Char.toLower
      split
      · next upper =>
        have most : c.toNat ≤ 90 := upper.2
        omega
      · rfl
    rwa [same] at plain

/-- Escapes are not taken for letters, nor do letters hide in them. -/
theorem map_toLower_quote {cs w : List Char} (plain : ∀ c ∈ w, isPlain c = true) :
    (quote cs).map Char.toLower = w ↔ cs.map Char.toLower = w := by
  by_cases all : ∀ c ∈ cs, isPlain c = true
  · rw [quote_of_plain all]
  · obtain ⟨c, there, other⟩ : ∃ c ∈ cs, ¬ isPlain c = true := by
      simpa using all
    refine iff_of_false ?_ ?_
    · rintro rfl
      have escaped := plain _ (List.mem_map_of_mem (percent_mem_quote there other))
      exact absurd escaped (by decide)
    · rintro rfl
      exact other (isPlain_of_toLower (plain _ (List.mem_map_of_mem there)))

def quoteText (s : String) : String := String.ofList (quote s.toList)

end Url

namespace Path

theorem suffix_quoted {p q : Path} (quoted : q.name = Url.quoteText p.name) {e : String}
    (plain : ∀ c ∈ e.toList, Url.isPlain c = true) : q.suffix = e ↔ p.suffix = e := by
  have text : ∀ cs : List Char, String.ofList cs = e ↔ cs = e.toList := by
    intro cs
    rw [← String.toList_inj, String.toList_ofList]
  rw [suffix, suffix, text, text, quoted, Url.quoteText, String.toList_ofList, suffixOf_quote,
    Url.map_toLower_quote plain]

end Path

theorem Dialect.ofPath_quoted {p q : Path} (quoted : q.name = Url.quoteText p.name) : ofPath q = ofPath p := by
  simp only [ofPath, Path.suffix_quoted quoted (e := ".sass") (List.all_eq_true.mp (by decide)),
    Path.suffix_quoted quoted (e := ".css") (List.all_eq_true.mp (by decide))]

/-! ## The name in a URL -/

theorem Path.Segment.quoteText {w : String} (segment : Path.Segment w) : Path.Segment (Url.quoteText w) where
  nonempty := by
    intro empty
    have quoted : Url.quote w.toList = [] := by
      simpa [Url.quoteText] using empty
    exact segment.nonempty (String.toList_injective ((Url.quote_eq_iff (by simp)).mp quoted))
  moving := by
    intro point
    have quoted : Url.quote w.toList = ['.'] := by
      simpa [Url.quoteText] using congrArg String.toList point
    have plain : ∀ c ∈ ['.'], Url.isPlain c = true := List.forall_mem_singleton.mpr (by decide)
    exact segment.moving (String.toList_injective ((Url.quote_eq_iff plain).mp quoted))
  whole := by
    rw [Url.quoteText, String.toList_ofList]
    exact fun there => segment.whole (Url.mem_of_mem_quote (.inr rfl) there)

theorem Url.quote_intercalate (parts : List (List Char)) :
    quote (['/'].intercalate parts) = ['/'].intercalate (parts.map quote) := by
  induction parts with
  | nil => rfl
  | cons part rest ih =>
    cases rest with
    | nil => simp
    | cons next rest =>
      rw [List.map_cons, List.map_cons, List.intercalate_cons_cons, List.intercalate_cons_cons, quote_append,
        quote_append, ih]
      rfl

theorem FileTree.quote_absoluteText_eq (parts : List String) :
    Url.quote (absoluteText parts).toList = (absoluteText (parts.map Url.quoteText)).toList := by
  have text : ∀ parts, (absoluteText parts).toList = ['/'] ++ ['/'].intercalate (parts.map String.toList) := by
    intro parts
    simp [absoluteText, String.toList_intercalate]
  have quoted : (parts.map Url.quoteText).map String.toList = (parts.map String.toList).map Url.quote := by
    simp [Url.quoteText, Function.comp_def]
  rw [text, text, quoted, Url.quote_append, Url.quote_intercalate]
  rfl

/-- A canonical URL shows the dialect of its place. -/
theorem Dialect.forLocation_urlOf {parts : List String} (segments : ∀ w ∈ parts, Path.Segment w) :
    forLocation (FileTree.urlOf parts) = .ok (ofPath ⟨1, parts⟩) := by
  have like_url : looksLikeUrl (FileTree.urlOf parts) = true := by
    have scheme : Text.startsWith "file:" (FileTree.urlOf parts) = true := by
      rw [Text.startsWith, FileTree.toList_urlOf]
      rfl
    rw [looksLikeUrl, scheme, Bool.or_true, Bool.true_or]
  have regular : Path.Regular ⟨1, parts.map Url.quoteText⟩ := by
    refine ⟨by simp, ?_⟩
    intro w there
    obtain ⟨v, listed, rfl⟩ := List.mem_map.mp there
    exact (segments v listed).quoteText
  have text : Path.toText ⟨1, parts.map Url.quoteText⟩ = FileTree.absoluteText (parts.map Url.quoteText) := by
    simp [Path.toText, FileTree.absoluteText]
  have name : Path.name ⟨1, parts.map Url.quoteText⟩ = Url.quoteText (Path.name ⟨1, parts⟩) := by
    rw [Path.name, Path.name, List.getLast?_map]
    cases parts.getLast? with
    | none => rfl
    | some w => rfl
  rw [forLocation, if_pos like_url, FileTree.split_urlOf]
  show Except.ok (ofPath (Path.ofText (String.ofList (Url.quote (FileTree.absoluteText parts).toList)))) = _
  rw [FileTree.quote_absoluteText_eq, String.ofList_toList, ← text, Path.ofText_toText regular, ofPath_quoted name]

theorem Dialect.forLocation_name {p : Path} (segments : ∀ w ∈ p.parts, Path.Segment w)
    (named : Lookup.PlainName p) : forLocation p.name = .ok (ofPath p) := by
  by_cases empty : p.parts = []
  · have unnamed : p.name = "" := by
      rw [Path.name, empty]
      rfl
    rw [ofPath, Path.suffix, unnamed]
    rfl
  · exact forLocation_of_segment (segments _ (Path.name_mem empty)) named.1 named.2

/-! ## Texts under URLs -/

variable {K : Kit}

theorem Request.entryDialect_urlOf {r : Request} {parts : List String} (segments : ∀ w ∈ parts, Path.Segment w)
    (url : r.url = some (FileTree.urlOf parts)) (unhinted : r.dialect = none) :
    r.entryUrl = FileTree.urlOf parts ∧ r.entryDialect = .ok (Dialect.ofPath ⟨1, parts⟩) := by
  have nonempty : (FileTree.urlOf parts).isEmpty = false := by
    rw [Bool.eq_false_iff, Ne, String.isEmpty_iff]
    intro empty
    have text := FileTree.toList_urlOf parts
    rw [empty] at text
    cases text
  constructor
  · simp only [entryUrl, url, nonempty, Bool.false_eq_true, if_false]
  · simp only [entryDialect, url, unhinted, nonempty, Bool.false_eq_true, if_false,
      Dialect.forLocation_urlOf segments]
    rfl

namespace Compile

variable {job : Job K} {importers : Importers K} {t : Toolchain K} {s : Session K}
variable {h : Settled (Session K) Fault (CompileCall K) CompileCall.Reply}

/-- Nothing is wrong with a job before its entry: it has a toolchain and a cache of the right kind. -/
structure Starts (job : Job K) (s : Session K) (t : Toolchain K) : Prop where
  found : job.toolchain.1 = .ok t
  fits : ¬ (job.mode = .direct ∧ t.isAwaitable = true)
  supplied : ∃ cache, cacheFor job s.world.environ = .ok cache

theorem Starts.startStage (starts : Starts job s t) : ∃ u, (startStage job).exec h s = (.ok t, u) := by
  obtain ⟨cache, supplied⟩ := starts.supplied
  have started : ∃ u, (start job).exec h
      (within (label job) .start [("mode", job.mode.name), ("entry", job.request.entryLabel)] s)
        = (.ok t, u) := by
    have same : cacheFor job ((within (label job) .start [("mode", job.mode.name),
        ("entry", job.request.entryLabel)] s).world.emitAll job.toolchain.2).environ = .ok cache := supplied
    simp only [start, Steps.exec_bind, Steps.exec_modify, Steps.exec_ofExcept, starts.found, starts.fits,
      if_false, Steps.exec_get, same]
    exact ⟨_, rfl⟩
  obtain ⟨u, started⟩ := started
  rw [Compile.startStage, exec_inStage, started]
  exact ⟨_, rfl⟩

theorem notes_parse_new (found : job.toolchain.1 = .ok t) {l : Loaded} {u : Session K}
    (new : Table.get? l.source.url u.cache.parsed = none) :
    (lift (Import.parse l)).notes (settled job importers) (inner t importers job.mode) u
      = [.parse l.source.contents l.source.dialect l.source.url] := by
  rw [notes_lift_inner found, Collaborators.calls_eq,
    (Import.exec_parse_new (t.collaborators importers) job.mode new).2]
  rfl

/-- The first call of a run on a text is that of the parser: an earlier parsed form of the URL is forgotten. -/
theorem calls_of_text (importers : Importers K) (starts : Starts job s t) (path : job.request.path = none)
    {dialect : Dialect} (shown : job.request.entryDialect = .ok dialect) :
    ∃ rest, calls job importers s
      = .parse (job.request.source.getD "") dialect job.request.entryUrl :: rest := by
  obtain ⟨u, started⟩ := starts.startStage (h := settled job importers)
  obtain ⟨rest, noted⟩ := notes_before_entry (inner t importers job.mode) started
  have entering : (entryStage job).notes (settled job importers) (inner t importers job.mode) u
      = [.parse (job.request.source.getD "") dialect job.request.entryUrl] := by
    rw [entryStage, notes_inStage, Steps.notes_mapFault, entry, path]
    simp only [shown, Steps.notes_bind, Steps.notes_ofExcept, Steps.exec_ofExcept, Steps.notes_get,
      Steps.exec_get, Steps.notes_modify, Steps.exec_modify, List.nil_append]
    split
    · simp only [Steps.notes_bind, Steps.notes_modify, Steps.exec_modify, List.nil_append]
      refine notes_parse_new starts.found ?_
      rw [Session.cache_recordLoaded]
      exact Table.get?_erase_self _ _
    · exact notes_parse_new starts.found (Table.get?_erase_self _ _)
  refine ⟨rest, ?_⟩
  simp only [calls, starts.found]
  exact noted.trans (by rw [entering]; rfl)

end Compile

/-! ## Files and their texts -/

/-- An import that is answered with the file found at a path, on a cache that has neither decided the reference nor
parsed the file. -/
structure Import.Reads (c : Collaborators K) (mode : Mode) (s : Session K) (reference : String)
    (base : Option String) (q : Path) (source : Source) : Prop where
  answered : ∃ r, c.answer mode reference base s = .ok (some (r, source))
  loaded : Lookup.Loads s.world.files q source
  undecided : Table.get? (base, reference) s.cache.verdicts = none
  unparsed : Table.get? source.url s.cache.parsed = none

/-- A request to compile a text under a URL that leaves the dialect to the URL. -/
structure Request.Unhinted (r : Request) (text url : String) : Prop where
  path : r.path = none
  source : r.source = some text
  url : r.url = some url
  dialect : r.dialect = none

namespace FileTree

variable {files : FileTree} {p : Path}

/-- The canonical URL of a resolved path shows the dialect that the name of the path shows. So an import that finds
the file there under its own name and a run on a text under the URL give the parser one dialect. -/
theorem url_shows_dialect (resolved : files.Resolved p) (named : Lookup.PlainName p) :
    ∃ url dialect, files.pathToUrl p = .ok url ∧ Dialect.forLocation url = .ok dialect ∧
      Dialect.forLocation p.name = .ok dialect ∧
      (∀ (c : Collaborators K) (mode : Mode) (s : Session K) (reference : String) (base : Option String)
        (q : Path) (source : Source), s.world.files = files → Import.Reads c mode s reference base q source →
        files.realPath q = .ok p → q.name = p.name →
          c.calls mode (Import.load reference base) s
            = c.calls mode (Import.cascade reference base (s.cache.relative? base) s.cache.resolvers) s
              ++ [.parse source.contents dialect url]) ∧
      ∀ (job : Job K) (importers : Importers K) (s : Session K) (t : Toolchain K) (text : String),
        Compile.Starts job s t → job.request.Unhinted text url →
          ∃ rest, Compile.calls job importers s = .parse text dialect url :: rest := by
  have shown := Dialect.forLocation_name resolved.segments named
  have place : Dialect.ofPath p = Dialect.ofPath ⟨1, p.parts⟩ := by
    rw [← resolved.eq_mk]
  refine ⟨urlOf p.parts, Dialect.ofPath p, resolved.pathToUrl, ?_, shown, ?_, ?_⟩
  · rw [place]
    exact Dialect.forLocation_urlOf resolved.segments
  · rintro c mode s reference base q source rfl ⟨⟨r, answered⟩, loaded, undecided, unparsed⟩ real same
    have url : source.url = urlOf p.parts := by
      have canonical := loaded.url
      rw [FileTree.pathToUrl, real] at canonical
      exact (Except.ok.inj canonical).symm
    have dialect : source.dialect = Dialect.ofPath p := by
      have own := loaded.dialect
      rw [same, shown] at own
      exact (Except.ok.inj own).symm
    obtain ⟨u, -, called⟩ := Import.load_of_answer c mode undecided answered unparsed
    rw [called, url, dialect]
  · rintro job importers s t text starts ⟨path, source, url, unhinted⟩
    obtain ⟨entry_url, entry_dialect⟩ := Request.entryDialect_urlOf resolved.segments url unhinted
    obtain ⟨rest, called⟩ := Compile.calls_of_text importers starts path entry_dialect
    rw [source, entry_url, ← place] at called
    exact ⟨rest, called⟩

end FileTree

namespace Lines

open FileTree

def textJob (text url : String) : Job kit where
  request := { source := some text, url := some url }
  mode := .direct
  toolchain := (.ok (toolchain {}), [])

def markedFiles : List (String × String) := [("é #?.Sass", "a\r\nb")]

theorem marked_file_parsed_alike :
    ∃ before rest,
      ((toolchain {}).collaborators (importers [])).calls .direct (Import.load "é #?.Sass" none)
          (filedSession markedFiles) = before ++ [.parse "a\nb" .sass "file:///%C3%A9%20%23%3F.Sass"] ∧
        Compile.calls (textJob "a\nb" "file:///%C3%A9%20%23%3F.Sass") (importers []) (filedSession markedFiles)
          = .parse "a\nb" .sass "file:///%C3%A9%20%23%3F.Sass" :: rest := by
  have segment : Path.Segment "é #?.Sass" := ⟨by decide, by decide, by decide⟩
  have proper : Proper "é #?.Sass" := ⟨by decide, by decide, by decide⟩
  have under : Proper ("_" ++ "é #?.Sass") := ⟨by decide, by decide, by decide⟩
  have linkless := linkless_filed markedFiles
  have resolved : (filed markedFiles).Resolved ⟨1, ["é #?.Sass"]⟩ :=
    resolved_of_unlinked linkless.find? (by decide) (by decide)
  obtain ⟨url, dialect, canonical, -, shown, imported, compiled⟩ :=
    url_shows_dialect (K := kit) resolved ⟨by decide, by decide⟩
  obtain rfl : dialect = .sass := (Except.ok.inj (shown.symm.trans (by decide)) : _ = Dialect.sass)
  have written : urlOf ["é #?.Sass"] = "file:///%C3%A9%20%23%3F.Sass" := by decide +kernel
  obtain rfl : url = "file:///%C3%A9%20%23%3F.Sass" :=
    (Except.ok.inj (canonical.symm.trans resolved.pathToUrl)).trans written
  have plain : Lookup.Plain ⟨0, ["é #?.Sass"]⟩ :=
    ⟨⟨_, rfl, by decide⟩, Url.unescaped_of_notMem (by decide), by decide, by decide⟩
  have regular : Path.Regular ⟨0, ["é #?.Sass"]⟩ := Path.regular_singleton segment
  have holds : (filed markedFiles).HoldsText ⟨0, ["é #?.Sass"]⟩ "a\r\nb".toList :=
    filed_holdsText proper rfl (by simp)
  have located : (filed markedFiles).pathToUrl ⟨0, ["é #?.Sass"]⟩ = .ok "file:///%C3%A9%20%23%3F.Sass" := by
    rw [filed_url proper, written]
  have offered := Lookup.inDirectory_of_target (Lookup.target_of_plain regular plain) regular (by decide)
    plain.named holds (filed_partial under rfl) located
  have loaded := Lookup.load_of_known regular (by decide) plain.named holds located fun _ => []
  have answered := (Import.answer_of_default (s := filedSession markedFiles)
    ((toolchain {}).collaborators (importers [])) .direct rfl offered).1
  have reads : Import.Reads ((toolchain {}).collaborators (importers [])) .direct (filedSession markedFiles)
      "é #?.Sass" none ⟨0, ["é #?.Sass"]⟩ ⟨"file:///%C3%A9%20%23%3F.Sass", "a\nb", .sass, none⟩ :=
    ⟨⟨_, answered⟩, (Lookup.load_eq_ok_iff _).mp (congrArg Prod.fst loaded), rfl, rfl⟩
  have real : (filed markedFiles).realPath ⟨0, ["é #?.Sass"]⟩ = .ok ⟨1, ["é #?.Sass"]⟩ := by
    rw [linkless.realPath proper.holdsNul, linkless.realParts_name rfl proper]
  obtain ⟨rest, called⟩ := compiled (textJob "a\nb" "file:///%C3%A9%20%23%3F.Sass") (importers [])
    (filedSession markedFiles) (toolchain {}) "a\nb" ⟨rfl, by decide, _, rfl⟩ ⟨rfl, rfl, rfl, rfl⟩
  exact ⟨_, rest, imported _ _ _ _ _ _ _ rfl reads real rfl, called⟩

end Lines

end StyleBuild
