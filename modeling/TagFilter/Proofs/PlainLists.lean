import TagFilter.Proofs.ListRefusal
import TagFilter.Proofs.Readable
import TagFilter.Proofs.Refusal
import TagFilter.TagList

/-!
# Tag lists and filters

A text is a tag list exactly if it spells names and nothing else, none of them empty and none
with the marker in it (`parseTagList_eq_ok_iff`).  What such a text is as a filter follows
from its symbols alone: there is no operator between two names, so it is read if it lists one
tag or none, and is refused at the second name otherwise.

The other way round, names are listed as they are written in filters, with any blanks between
them, and the filter that a tag list stands for is read again as the same query
(`tagList_agrees`).
-/

namespace TagFilter

open Grammar

variable {marker : Char}

/-! ## What a tag list is -/

/-- A tag of a list is a name in a filter. -/
theorem Token.IsPlain.symbol_eq {token : Token} (h : token.IsPlain marker) :
    token.symbol = .name token.value := by
  rw [Token.symbol, h.kind]
  rfl

/-- Symbols that are all names tell the kinds and the texts of their tokens. -/
theorem texts_of_symbols {found : List Token} {names : List Text}
    (h : found.map Token.symbol = names.map Symbol.name) :
    (∀ token ∈ found, token.kind = .text) ∧ names = found.map Token.value := by
  induction found generalizing names with
  | nil => exact ⟨by simp, List.map_eq_nil_iff.mp h.symm⟩
  | cons token found ih =>
      cases names with
      | nil => simp at h
      | cons name names =>
          obtain ⟨hsymbol, hsymbols⟩ := List.cons.inj h
          obtain ⟨hkinds, rfl⟩ := ih hsymbols
          obtain rfl : token.value = name := Token.value_of_symbol hsymbol
          exact ⟨List.forall_mem_cons.mpr ⟨Token.kind_of_symbol hsymbol, hkinds⟩, rfl⟩

/-- A tag list spells names, not empty and without the marker, and nothing else. -/
theorem parseTagList_eq_ok_iff {input : Text} {names : List Text} :
    parseTagList marker input = .ok names ↔
      Spells marker input (names.map Symbol.name) ∧
        ∀ name ∈ names, name ≠ [] ∧ marker ∉ name := by
  rw [parseTagList, plainNames_eq_ok_iff]
  constructor
  · rintro ⟨⟨stop, hending⟩, hplain, rfl⟩
    refine ⟨⟨(tokens marker input).tokens, stop, by rw [← hending], ?_⟩, ?_⟩
    · rw [List.map_map]
      exact List.map_congr_left fun token htoken => (hplain token htoken).symbol_eq
    · exact List.forall_mem_map.mpr fun token htoken =>
        ⟨(hplain token htoken).nonempty, (hplain token htoken).unmarked⟩
  · rintro ⟨⟨found, stop, hfound, hsymbols⟩, hplain⟩
    obtain ⟨hkinds, rfl⟩ := texts_of_symbols hsymbols
    rw [hfound]
    refine ⟨⟨stop, rfl⟩, fun token htoken => ?_, rfl⟩
    obtain ⟨nonempty, unmarked⟩ := List.forall_mem_map.mp hplain token htoken
    exact ⟨hkinds token htoken, nonempty, unmarked⟩

/-! ## Names with blanks between them -/

/-- The text has the names in it as tags are written, and some blanks between each two. -/
inductive Listed (marker : Char) : List Text → Text → Prop
  | nil : Listed marker [] []
  | one (name : Text) : Listed marker [name] ((Query.tag name).write marker)
  | cons {name next gap text : Text} {names : List Text} (nonempty : gap ≠ [])
      (blank : ∀ c ∈ gap, isBlank c) (later : Listed marker (next :: names) text) :
      Listed marker (name :: next :: names) ((Query.tag name).write marker ++ (gap ++ text))

/-- The same blanks may stand everywhere. -/
theorem listed_intercalate {gap : Text} (nonempty : gap ≠ []) (blank : ∀ c ∈ gap, isBlank c)
    (names : List Text) :
    Listed marker names
      (gap.intercalate (names.map fun name => (Query.tag name).write marker)) := by
  induction names with
  | nil => exact .nil
  | cons name names ih =>
      cases names with
      | nil =>
          rw [List.map_singleton, List.intercalate_singleton]
          exact .one name
      | cons next names =>
          rw [List.map_cons, List.map_cons, List.intercalate_cons_cons, List.append_assoc]
          exact .cons nonempty blank ih

/-- A gap that is not empty ends a word. -/
theorem separated_of_blank {gap text : Text} (nonempty : gap ≠ [])
    (blank : ∀ c ∈ gap, isBlank c) : Separated (gap ++ text) := by
  obtain ⟨c, gap, rfl⟩ := List.exists_cons_of_ne_nil nonempty
  exact separated_cons (isWordChar_of_isBlank (blank c List.mem_cons_self))

/-- Names that are listed as they are written are spelled. -/
theorem Listed.spells {names : List Text} {text : Text} (h : Listed marker names text)
    (plain : ∀ name ∈ names, marker ∉ name) : Spells marker text (names.map Symbol.name) := by
  induction h with
  | nil => exact spells_nil marker
  | one name => exact spells_writeName_of_plain (plain name List.mem_cons_self)
  | cons nonempty blank later ih =>
      obtain ⟨hname, hlater⟩ := List.forall_mem_cons.mp plain
      exact (spells_writeName_of_plain hname).append ((ih hlater).blanks blank)
        (separated_of_blank nonempty blank)

/-! ## Tag lists as filters -/

/-- A name behind a name is refused. -/
theorem read_two_names {first second : Token} {name next : Text}
    (hfirst : first.symbol = .name name) (nonempty : name ≠ []) (plain : marker ∉ name)
    (hsecond : second.symbol = .name next) (later : List Token) (ending : Ending) :
    (Progress.start.read marker (first :: second :: later) ending).result =
      .error (Complaint.unexpectedToken.about second) := by
  have hproper : AllProper marker [first] := by
    have hkind : first.kind = .text := Token.kind_of_symbol hfirst
    simp [AllProper, Token.Proper, hkind]
  have hleaf : Primary marker [first.symbol] (.tag name) := by
    rw [hfirst]
    exact .tag nonempty plain
  have hrun : Advances marker .start [first] (Progress.start.withOperand (.tag name)) :=
    .step (.leaf (by decide) hleaf) (.refl _)
  have hrefused : (Progress.start.withOperand (.tag name)).take marker second =
      .error (Complaint.unexpectedToken.about second) := by
    have hpassed : (Progress.start.withOperand (.tag name)).passed = .operand := rfl
    have hkind : second.kind = .text := Token.kind_of_symbol hsecond
    rw [Progress.take, if_pos hpassed, Progress.takeOperator, hkind]
  exact congrArg Reading.result (hrun.read_refused hproper hrefused later ending)

/-- A list of two tags or more is refused as a filter at its second tag. -/
theorem exists_refused_of_parseTagList {input name next : Text} {more : List Text}
    (h : parseTagList marker input = .ok (name :: next :: more)) :
    ∃ first second later, (tokens marker input).tokens = first :: second :: later ∧
      second.value = next ∧
      parse marker input = .error (.grammar .unexpectedToken second.start second.value) := by
  obtain ⟨⟨found, stop, hfound, hsymbols⟩, hplain⟩ := parseTagList_eq_ok_iff.mp h
  obtain ⟨nonempty, plain⟩ := hplain name List.mem_cons_self
  rcases found with - | ⟨first, - | ⟨second, later⟩⟩
  · simp at hsymbols
  · simp at hsymbols
  · simp only [List.map_cons, List.cons.injEq] at hsymbols
    obtain ⟨hfirst, hsecond, -⟩ := hsymbols
    refine ⟨first, second, later, by rw [hfound], Token.value_of_symbol hsecond, ?_⟩
    rw [parse, reading, hfound]
    exact read_two_names hfirst nonempty plain hsecond later (.done stop)

namespace Query

/-- The query of a tag list is in its normal form. -/
theorem normal_ofTags (names : List Text) : (ofTags names).normal = ofTags names := by
  match names with
  | [] | [_] => simp [ofTags, conjunction, Query.normal]
  | first :: second :: rest =>
      have hoperands : (List.map tag (first :: second :: rest)).flatMap
          (fun query => Connective.all.operandsOf query.normal) =
            List.map tag (first :: second :: rest) := by
        rw [List.flatMap_map, List.map_eq_flatMap]
        exact List.flatMap_congr fun name _ => by simp [Query.normal, Connective.operandsOf]
      exact (normal_join .all (by simp)).trans (congrArg all hoperands)

/-- The query of a list of tags can be written. -/
theorem formed_ofTags {names : List Text} (h : ∀ name ∈ names, name ≠ [] ∧ marker ∉ name) :
    ofTags names = .empty ∨ (ofTags names).Formed marker 1 := by
  cases names with
  | nil => exact .inl rfl
  | cons name names =>
      have hoperands : ∀ query ∈ List.map tag (name :: names), query.Formed marker 2 := by
        intro query hquery
        obtain ⟨other, hother, rfl⟩ := List.mem_map.mp hquery
        exact .tag (h other hother).1 (h other hother).2
      exact .inr ((formed_combine .all (by simp) hoperands).mono (by decide))

end Query

/-- What a tag list stands for is written as a filter that is read as the same query. -/
theorem parse_write_of_parseTags {input : Text} {query : Query}
    (h : parseTags marker input = .ok query) : parse marker (query.write marker) = .ok query := by
  rw [parseTags] at h
  cases hlist : parseTagList marker input with
  | error failure => simp [hlist, Except.map] at h
  | ok names =>
      rw [hlist] at h
      obtain rfl := Except.ok.inj h
      have hformed := Query.formed_ofTags (parseTagList_eq_ok_iff.mp hlist).2
      rw [parse_write_eq_normal marker _ hformed, Query.normal_ofTags]

/-- **Tag lists and filters agree.**  Tags without the marker in them are listed as they are
written, whatever blanks stand between them.  A list of no tag is read as the empty filter, a
list of one tag as the filter for that tag, and a longer list is refused at its second tag.
The query that a list stands for is written as a filter that is read as this query. -/
theorem tagList_agrees (marker : Char) :
    (∀ (names : List Text) (text : Text), (∀ name ∈ names, name ≠ [] ∧ marker ∉ name) →
      Listed marker names text → parseTagList marker text = .ok names) ∧
    (∀ input : Text,
      (parseTagList marker input = .ok [] → parse marker input = .ok .empty) ∧
      (∀ name, parseTagList marker input = .ok [name] → parse marker input = .ok (.tag name)) ∧
      ∀ name next more, parseTagList marker input = .ok (name :: next :: more) →
        ∃ first second later, (tokens marker input).tokens = first :: second :: later ∧
          second.value = next ∧
          parse marker input = .error (.grammar .unexpectedToken second.start second.value)) ∧
    ∀ (input : Text) (query : Query), parseTags marker input = .ok query →
      parse marker (query.write marker) = .ok query := by
  refine ⟨?_, fun input => ⟨?_, ?_, ?_⟩, ?_⟩
  · intro names text hplain hlisted
    have hspells := hlisted.spells fun name hname => (hplain name hname).2
    exact parseTagList_eq_ok_iff.mpr ⟨hspells, hplain⟩
  · intro h
    obtain ⟨⟨found, stop, hfound, hsymbols⟩, -⟩ := parseTagList_eq_ok_iff.mp h
    obtain rfl : found = [] := List.map_eq_nil_iff.mp hsymbols
    exact parse_of_blank hfound
  · intro name h
    obtain ⟨hspells, hplain⟩ := parseTagList_eq_ok_iff.mp h
    obtain ⟨nonempty, plain⟩ := hplain name List.mem_cons_self
    exact Query.parse_of_spells hspells (Unary.primary (.tag nonempty plain)).derives
  · intro name next more h
    exact exists_refused_of_parseTagList h
  · intro input query h
    exact parse_write_of_parseTags h

/-- A tag that is a keyword is quoted, so it is listed, and joined as a name. -/
theorem tagList_agrees_keyword :
    Listed '*' [['a'], ['O', 'R']] ['a', ' ', '\n', '"', 'O', 'R', '"'] ∧
      parseTagList '*' ['a', ' ', '\n', '"', 'O', 'R', '"'] = .ok [['a'], ['O', 'R']] ∧
      parse '*' ['a', ' ', '\n', '"', 'O', 'R', '"'] =
        .error (.grammar .unexpectedToken 3 ['O', 'R']) ∧
      parse '*' ((Query.all [.tag ['a'], .tag ['O', 'R']]).write '*') =
        .ok (.all [.tag ['a'], .tag ['O', 'R']]) ∧
      parseTagList '*' ['\x27', 'O', 'r', '\x27'] = .ok [['O', 'r']] ∧
      parse '*' ['\x27', 'O', 'r', '\x27'] = .ok (.tag ['O', 'r']) ∧
      parseTagList '*' ['\t'] = .ok [] ∧ parse '*' ['\t'] = .ok .empty := by
  obtain ⟨hlist, hfilter, hagain⟩ := tagList_agrees '*'
  have hblank : ∀ c ∈ [' ', '\n'], isBlank c :=
    List.forall_mem_cons.mpr ⟨by decide, List.forall_mem_singleton.mpr (by decide)⟩
  have hlisted : Listed '*' [['a'], ['O', 'R']] ['a', ' ', '\n', '"', 'O', 'R', '"'] :=
    listed_intercalate (by simp) hblank [['a'], ['O', 'R']]
  have hpair := hlist _ _ (by decide) hlisted
  have hone : parseTagList '*' ['\x27', 'O', 'r', '\x27'] = .ok [['O', 'r']] := by cbv
  have hnone : parseTagList '*' ['\t'] = .ok [] := by cbv
  have htags : parseTags '*' ['a', ' ', '\n', '"', 'O', 'R', '"'] =
      .ok (.all [.tag ['a'], .tag ['O', 'R']]) := by
    rw [parseTags, hpair]
    rfl
  refine ⟨hlisted, hpair, ?_, hagain _ _ htags, hone, (hfilter _).2.1 _ hone, hnone,
    (hfilter _).1 hnone⟩
  obtain ⟨first, second, later, hfound, -, herror⟩ := (hfilter _).2.2 _ _ _ hpair
  have htokens : (tokens '*' ['a', ' ', '\n', '"', 'O', 'R', '"']).tokens =
      [⟨.text, ['a'], 0, 1⟩, ⟨.text, ['O', 'R'], 3, 7⟩] := by cbv
  rw [htokens] at hfound
  obtain ⟨-, hsecond⟩ := List.cons.inj hfound
  obtain ⟨rfl, -⟩ := List.cons.inj hsecond
  exact herror

end TagFilter
