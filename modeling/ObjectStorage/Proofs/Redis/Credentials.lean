import Mathlib.Data.List.Induction
import Mathlib.Data.List.Nodup
import Mathlib.Data.List.TakeWhile
import ObjectStorage.Proofs.Text.Number
import ObjectStorage.Proofs.Url.Path
import ObjectStorage.Proofs.Url.Verbatim
import ObjectStorage.Redis.Config

/-!
# Credentials in the URL of a socket

The URL of a connection over a socket has the database, the user and the password in its query, as
they are, whereas the URL of a connection over a network has them encoded.  A client reads the
query as one that is encoded.  So it is told the credentials just if they stand for themselves in a
query: if there is no `&`, no `#`, no `+` and no escape in them.

* `written`, `told` — settings as they are written, and what a query tells;
* `told_written_iff` — which settings are told as they were written;
* `Config.settings`, `Config.queryOf` — what is written for a configuration, and where it stands;
* `credentials_told_iff` — which credentials are told to the server as they were configured.
-/

namespace ObjectStorage.Redis

/-! ### Settings -/

/-- Settings as they are written into a query. -/
def written (settings : List (String × String)) : List Char :=
  ['&'].intercalate (settings.map fun s => s.1.toList ++ '=' :: s.2.toList)

/-- What a query tells under a name, up to a `#`: the last value. -/
def told (query : List Char) (name : String) : Option String :=
  Login.last? (Url.formPairs (String.ofList (query.takeWhile (· ≠ '#')))) name

theorem written_singleton (s : String × String) :
    written [s] = s.1.toList ++ '=' :: s.2.toList := List.intercalate_singleton

theorem written_concat {settings : List (String × String)} (hne : settings ≠ [])
    (s : String × String) :
    written (settings ++ [s]) = written settings ++ '&' :: (s.1.toList ++ '=' :: s.2.toList) := by
  induction settings with
  | nil => exact absurd rfl hne
  | cons first settings ih =>
    cases settings with
    | nil =>
      show ['&'].intercalate [_, _] = _
      rw [List.intercalate_cons_cons, List.intercalate_singleton, written_singleton,
        List.append_assoc]
      rfl
    | cons second settings =>
      have hrest := ih (List.cons_ne_nil _ _)
      have hcons (more : List (String × String)) : written (first :: second :: more)
          = first.1.toList ++ '=' :: first.2.toList ++ ['&'] ++ written (second :: more) :=
        List.intercalate_cons_cons
      rw [List.cons_append, List.cons_append, hcons, ← List.cons_append, hrest, hcons,
        List.append_assoc _ (written _)]

theorem last?_append (xs ys : List (String × String)) (name : String) :
    Login.last? (xs ++ ys) name = (Login.last? ys name).or (Login.last? xs name) := by
  rw [Login.last?, List.reverse_append, List.lookup_append]
  rfl

theorem last?_singleton (name value : String) : Login.last? [(name, value)] name = some value := by
  simp [Login.last?]

theorem last?_singleton_of_ne {name other : String} (h : other ≠ name) (value : String) :
    Login.last? [(name, value)] other = none := by
  simp [Login.last?, h]

theorem mem_of_last? {pairs : List (String × String)} {name value : String}
    (h : Login.last? pairs name = some value) : (name, value) ∈ pairs := by
  obtain ⟨before, after, hpairs, -⟩ := List.lookup_eq_some_iff.1 h
  rw [← List.mem_reverse, hpairs]
  exact List.mem_append_right _ List.mem_cons_self

/-- Under different names every value is found. -/
theorem lookup_of_mem {settings : List (String × String)}
    (hdistinct : (settings.map (·.1)).Nodup) {s : String × String} (hs : s ∈ settings) :
    settings.lookup s.1 = some s.2 := by
  obtain ⟨before, after, rfl⟩ := List.append_of_mem hs
  rw [List.map_append, List.nodup_append] at hdistinct
  refine List.lookup_eq_some_iff.2 ⟨before, after, rfl, fun p hp => ?_⟩
  rw [bne_iff_ne]
  exact (hdistinct.2.2 p.1 (List.mem_map_of_mem hp) s.1 List.mem_cons_self).symm

/-- Under different names the last value is the first one. -/
theorem last?_eq_lookup {settings : List (String × String)}
    (hdistinct : (settings.map (·.1)).Nodup) (name : String) :
    Login.last? settings name = settings.lookup name := by
  have hdistinct' : (settings.reverse.map (·.1)).Nodup := by
    rwa [List.map_reverse, List.nodup_reverse]
  rw [Login.last?]
  cases hfound : settings.lookup name with
  | none =>
    rw [List.lookup_eq_none_iff] at hfound ⊢
    exact fun p hp => hfound p (List.mem_reverse.1 hp)
  | some value =>
    obtain ⟨before, after, rfl, -⟩ := List.lookup_eq_some_iff.1 hfound
    exact lookup_of_mem hdistinct' (s := (name, value))
      (List.mem_reverse.2 (List.mem_append_right _ List.mem_cons_self))

/-- Of a text without a `#` all is left, and what is left of the text after it. -/
theorem takeWhile_of_hash_not_mem {before : List Char} (h : '#' ∉ before) (after : List Char) :
    (before ++ after).takeWhile (· ≠ '#') = before ++ after.takeWhile (· ≠ '#') := by
  refine List.takeWhile_append_of_pos fun c hc => ?_
  rw [decide_eq_true_iff]
  rintro rfl
  exact h hc

theorem takeWhile_eq_self {cs : List Char} (h : '#' ∉ cs) : cs.takeWhile (· ≠ '#') = cs := by
  have hleft := takeWhile_of_hash_not_mem h []
  rwa [List.append_nil, List.takeWhile_nil, List.append_nil] at hleft

/-- Of a text after one with a `#` nothing is left. -/
theorem takeWhile_of_hash_mem {before : List Char} (h : '#' ∈ before) (after : List Char) :
    (before ++ after).takeWhile (· ≠ '#') = before.takeWhile (· ≠ '#') := by
  obtain ⟨first, rest, rfl, hfirst⟩ := List.eq_append_cons_of_mem h
  rw [List.append_assoc, takeWhile_of_hash_not_mem hfirst, takeWhile_of_hash_not_mem hfirst]
  rfl

/-- What is left of a setting has its name. -/
theorem takeWhile_setting {name : String} (hname : Url.IsName name) (value : List Char) :
    (name.toList ++ '=' :: value).takeWhile (· ≠ '#')
      = name.toList ++ '=' :: value.takeWhile (· ≠ '#') := by
  rw [takeWhile_of_hash_not_mem hname.1.hash]
  rfl

/-! ### What is told of the last setting -/

/-- **The last setting is told only if its value stands for itself.**  What the query tells is not
longer than what is left of the value, so all of it is left. -/
theorem verbatim_of_last? {name value : String} (hname : Url.IsName name)
    (before : List (String × String))
    (h : Login.last? (before ++ Url.formPairs (String.ofList
      (name.toList ++ '=' :: value.toList.takeWhile (· ≠ '#')))) name = some value) :
    Url.Verbatim value.toList := by
  have hstarts := List.takeWhile_prefix (l := value.toList) (· ≠ '#')
  generalize hleft : value.toList.takeWhile (· ≠ '#') = left at h hstarts
  have hleftLength := hstarts.length_le
  have hlength : value.toList.length = value.length := String.length_toList
  by_cases hamp : '&' ∈ left
  · -- the value is cut, and what follows the cut is shorter too
    obtain ⟨first, rest, rfl, hfirst⟩ := List.eq_append_cons_of_mem hamp
    have hfirstLength := Url.length_formDecode_le first
    have hrestLength {pair : String × String} (hpair : pair ∈ Url.formPairs (String.ofList rest)) :=
      Url.length_le_of_mem_formPairs hpair
    rw [List.length_append, List.length_cons] at hleftLength
    rw [← List.cons_append, ← List.append_assoc, Url.formPairs_append,
      Url.formPairs_setting hname hfirst, ← List.append_assoc, last?_append, last?_append,
      last?_singleton] at h
    exfalso
    cases hrest : Login.last? (Url.formPairs (String.ofList rest)) name with
    | some v =>
      rw [hrest] at h
      obtain rfl : v = value := Option.some.inj h
      have hshort := hrestLength (mem_of_last? hrest)
      dsimp only at hshort
      omega
    | none =>
      rw [hrest] at h
      obtain rfl : Url.formDecode first = value := Option.some.inj h
      omega
  · rw [Url.formPairs_setting hname hamp, last?_append, last?_singleton] at h
    have hdecode : Url.formDecode left = value := Option.some.inj h
    have hshort := Url.length_formDecode_le left
    rw [hdecode] at hshort
    have hwhole : left = value.toList := hstarts.eq_of_length (by omega)
    have hself : (Url.formDecode value.toList).toList = value.toList := by
      rw [← hwhole, hdecode, hwhole]
    obtain ⟨hplus, hescapes⟩ := (Url.formDecode_eq_iff _).1 hself
    refine ⟨hwhole ▸ hamp, fun hhash => ?_, hplus, hescapes⟩
    rw [← hwhole, ← hleft] at hhash
    exact absurd (List.mem_takeWhile_imp hhash) (by decide)

/-- A setting that stands for itself is read as it was written. -/
theorem formPairs_of_verbatim {s : String × String} (hname : Url.IsName s.1)
    (hvalue : Url.Verbatim s.2.toList) :
    Url.formPairs (String.ofList (s.1.toList ++ '=' :: s.2.toList)) = [s] := by
  rw [Url.formPairs_setting hname hvalue.ampersand, hvalue.formDecode_eq, String.ofList_toList]

/-! ### What is told of all settings -/

section

variable {settings : List (String × String)} (hnames : ∀ s ∈ settings, Url.IsName s.1)
include hnames

theorem hash_not_mem_setting {s : String × String} (hs : s ∈ settings)
    (hvalue : Url.Verbatim s.2.toList) : '#' ∉ s.1.toList ++ '=' :: s.2.toList := by
  simp only [List.mem_append, List.mem_cons, not_or]
  exact ⟨(hnames s hs).1.hash, by decide, hvalue.hash⟩

theorem hash_not_mem_written (hvalues : ∀ s ∈ settings, Url.Verbatim s.2.toList) :
    '#' ∉ written settings := by
  induction settings using List.reverseRecOn with
  | nil => exact List.not_mem_nil
  | append_singleton settings s ih =>
    have hs : s ∈ settings ++ [s] := List.mem_append_right _ List.mem_cons_self
    have hlast := hash_not_mem_setting hnames hs (hvalues s hs)
    have hrest := ih (fun s hs => hnames s (List.mem_append_left _ hs))
      fun s hs => hvalues s (List.mem_append_left _ hs)
    by_cases hne : settings = []
    · rw [hne, List.nil_append, written_singleton]
      exact hlast
    · rw [written_concat hne, List.mem_append, List.mem_cons, not_or, not_or]
      exact ⟨hrest, by decide, hlast⟩

/-- Settings that stand for themselves are read as they were written. -/
theorem formPairs_written (hvalues : ∀ s ∈ settings, Url.Verbatim s.2.toList) :
    Url.formPairs (String.ofList (written settings)) = settings := by
  induction settings using List.reverseRecOn with
  | nil => rfl
  | append_singleton settings s ih =>
    have hs : s ∈ settings ++ [s] := List.mem_append_right _ List.mem_cons_self
    have hlast := formPairs_of_verbatim (hnames s hs) (hvalues s hs)
    by_cases hne : settings = []
    · rw [hne, List.nil_append, written_singleton, hlast]
    · rw [written_concat hne, Url.formPairs_append, hlast,
        ih (fun s hs => hnames s (List.mem_append_left _ hs))
          fun s hs => hvalues s (List.mem_append_left _ hs)]

/-- Settings are told only if all of them stand for themselves, by induction from the last one.  The
ones before it are told as they are without it, unless a `#` in them leaves nothing of it. -/
theorem verbatim_of_told (hdistinct : (settings.map (·.1)).Nodup)
    (h : ∀ s ∈ settings, told (written settings) s.1 = some s.2) :
    ∀ s ∈ settings, Url.Verbatim s.2.toList := by
  induction settings using List.reverseRecOn with
  | nil => exact fun s hs => absurd hs List.not_mem_nil
  | append_singleton settings last ih =>
    have hlast : last ∈ settings ++ [last] := List.mem_append_right _ List.mem_cons_self
    have hname := hnames last hlast
    have hnames' : ∀ s ∈ settings, Url.IsName s.1 := fun s hs =>
      hnames s (List.mem_append_left _ hs)
    rw [List.map_append, List.nodup_append] at hdistinct
    obtain ⟨hdistinct', -, hother⟩ := hdistinct
    have htold := h last hlast
    by_cases hne : settings = []
    · rw [hne, List.nil_append, written_singleton, told, takeWhile_setting hname,
        ← List.nil_append (Url.formPairs _)] at htold
      intro s hs
      rw [hne, List.nil_append, List.mem_singleton] at hs
      rw [hs]
      exact verbatim_of_last? hname [] htold
    by_cases hhash : '#' ∈ written settings
    · have hverbatim := ih hnames' hdistinct' fun s hs => by
        have hs := h s (List.mem_append_left _ hs)
        rwa [told, written_concat hne, takeWhile_of_hash_mem hhash] at hs
      exact absurd hhash (hash_not_mem_written hnames' hverbatim)
    · have hleft : (written (settings ++ [last])).takeWhile (· ≠ '#')
          = written settings
            ++ '&' :: (last.1.toList ++ '=' :: last.2.toList.takeWhile (· ≠ '#')) := by
        rw [written_concat hne, takeWhile_of_hash_not_mem hhash,
          List.takeWhile_cons_of_pos (by decide), takeWhile_setting hname]
      rw [told, hleft, Url.formPairs_append] at htold
      have hverbatim := verbatim_of_last? hname _ htold
      have hverbatim' := ih hnames' hdistinct' fun s hs => by
        have hs' := h s (List.mem_append_left _ hs)
        have hne' : s.1 ≠ last.1 :=
          hother s.1 (List.mem_map_of_mem hs) last.1 (List.mem_singleton.2 rfl)
        rw [told, hleft, Url.formPairs_append, takeWhile_eq_self hverbatim.hash,
          formPairs_of_verbatim hname hverbatim, last?_append, last?_singleton_of_ne hne',
          Option.none_or] at hs'
        rwa [told, takeWhile_eq_self hhash]
      intro s hs
      rcases List.mem_append.1 hs with hs | hs
      · exact hverbatim' s hs
      · rw [List.mem_singleton.1 hs]
        exact hverbatim

/-- **Settings are told as they were written just if all of them stand for themselves.** -/
theorem told_written_iff (hdistinct : (settings.map (·.1)).Nodup) :
    (∀ name, told (written settings) name = settings.lookup name)
      ↔ ∀ s ∈ settings, Url.Verbatim s.2.toList := by
  constructor
  · intro h
    refine verbatim_of_told hnames hdistinct fun s hs => ?_
    rw [h, lookup_of_mem hdistinct hs]
  · intro hvalues name
    rw [told, takeWhile_eq_self (hash_not_mem_written hnames hvalues),
      formPairs_written hnames hvalues, last?_eq_lookup hdistinct]

end

/-! ### Credentials -/

/-- The query of a URL as text: what follows the first `?`. -/
def queryOf (text : String) : List Char := (text.toList.dropWhile (· ≠ '?')).drop 1

namespace Config

variable (c : Config)

/-- What a client is to be told: the database, and the user and the password if there are any. -/
def settings : List (String × String) :=
  ("db", toString c.db) :: ((c.username.map ("user", ·)).toList
    ++ (c.password.map ("pass", ·)).toList)

theorem mem_settings {s : String × String} :
    s ∈ c.settings ↔ s = ("db", toString c.db)
      ∨ (∃ user, c.username = some user ∧ ("user", user) = s)
      ∨ ∃ pass, c.password = some pass ∧ ("pass", pass) = s := by
  simp only [settings, List.mem_cons, List.mem_append, Option.mem_toList, Option.map_eq_some_iff]

theorem isName_of_mem_settings : ∀ s ∈ c.settings, Url.IsName s.1 := by
  have hnames : ∀ name ∈ ["db", "user", "pass"], Url.IsName name := by
    intro name hname
    simp only [List.mem_cons, List.not_mem_nil, or_false] at hname
    rcases hname with rfl | rfl | rfl <;>
      exact ⟨⟨by decide, by decide, by decide, by decide⟩, by decide⟩
  intro s hs
  obtain rfl | ⟨user, -, rfl⟩ | ⟨pass, -, rfl⟩ := c.mem_settings.1 hs
  · exact hnames "db" (by decide)
  · exact hnames "user" (by decide)
  · exact hnames "pass" (by decide)

theorem nodup_settings : (c.settings.map (·.1)).Nodup := by
  obtain ⟨endpoint, username, password, db, root, ttl⟩ := c
  cases username <;> cases password <;> simp [settings]

theorem verbatim_toString (n : Int) : Url.Verbatim (toString n).toList := by
  have hfree {c : Char} (hminus : c ≠ '-') (hdigit : c.isDigit = false) :
      c ∉ (toString n).toList := by
    intro hc
    rcases Text.mem_toString_int hc with rfl | h
    · exact hminus rfl
    · rw [hdigit] at h
      cases h
  exact ⟨hfree (by decide) (by decide), hfree (by decide) (by decide),
    hfree (by decide) (by decide), Url.escapes_of_not_mem (hfree (by decide) (by decide))⟩

/-- The number of a database always stands for itself. -/
theorem verbatim_settings_iff :
    (∀ s ∈ c.settings, Url.Verbatim s.2.toList)
      ↔ (∀ user, c.username = some user → Url.Verbatim user.toList)
        ∧ ∀ pass, c.password = some pass → Url.Verbatim pass.toList := by
  constructor
  · intro h
    exact ⟨fun user huser => h _ (c.mem_settings.2 (.inr (.inl ⟨user, huser, rfl⟩))),
      fun pass hpass => h _ (c.mem_settings.2 (.inr (.inr ⟨pass, hpass, rfl⟩)))⟩
  · rintro ⟨huser, hpass⟩ s hs
    obtain rfl | ⟨user, hset, rfl⟩ | ⟨pass, hset, rfl⟩ := c.mem_settings.1 hs
    · exact verbatim_toString c.db
    · exact huser user hset
    · exact hpass pass hset

theorem toList_socketUrl (path : String) :
    (c.socketUrl path).toList
      = "redis+unix://".toList ++ path.toList ++ '?' :: written c.settings := by
  show ("redis+unix://" ++ path ++ "?" ++ "&".intercalate _).toList = _
  have hquery : ("&".intercalate ([s!"db={c.db}"] ++ (c.username.map ("user=" ++ ·)).toList
      ++ (c.password.map ("pass=" ++ ·)).toList)).toList = written c.settings := by
    rw [String.toList_intercalate, written]
    congr 1
    obtain ⟨endpoint, username, password, db, root, ttl⟩ := c
    cases username <;> cases password <;> simp [settings] <;> rfl
  rw [String.toList_append, hquery, String.toList_append, String.toList_append,
    List.append_assoc]
  rfl

/-- The query of the URL of a socket has the settings. -/
theorem queryOf_socketUrl {path : String}
    (hpath : ∀ ch ∈ path.toList, Url.staysInPath ch = true) :
    queryOf (c.socketUrl path) = written c.settings := by
  have hscheme : "redis+unix://".toList.all (· ≠ '?') = true := by decide
  have hbefore : ∀ ch ∈ "redis+unix://".toList ++ path.toList, decide (ch ≠ '?') = true := by
    intro ch hch
    rcases List.mem_append.1 hch with hch | hch
    · exact List.all_eq_true.1 hscheme ch hch
    · exact (Bool.and_eq_true_iff.1 (hpath ch hch)).1
  rw [queryOf, toList_socketUrl, List.dropWhile_append_of_pos hbefore,
    List.dropWhile_cons_of_neg (by decide)]
  rfl

/-- The URL of a connection over a socket. -/
theorem connectionUrl_of_socket {url : Url} (hparse : Url.parse c.endpointText = .ok url)
    (hscheme : url.scheme = "unix" ∨ url.scheme = "redis+unix") :
    c.connectionUrl = .ok (c.socketUrl url.pathText) := by
  rw [connectionUrl, hparse]
  rcases hscheme with h | h <;> simp [h]

end Config

/-- **Which credentials a client is told.**  Over a socket the connection URL tells the database,
the user and the password as they were configured, and nothing else, just if neither user nor
password has a `&`, a `#`, a `+` or an escape in it. -/
theorem credentials_told_iff (c : Config) {url : Url} (hparse : Url.parse c.endpointText = .ok url)
    (hscheme : url.scheme = "unix" ∨ url.scheme = "redis+unix") :
    ∃ text, c.connectionUrl = .ok text
      ∧ ((∀ name, told (queryOf text) name = c.settings.lookup name)
        ↔ (∀ user, c.username = some user → Url.Verbatim user.toList)
          ∧ ∀ pass, c.password = some pass → Url.Verbatim pass.toList) := by
  refine ⟨_, c.connectionUrl_of_socket hparse hscheme, ?_⟩
  rw [c.queryOf_socketUrl fun ch hch => Url.staysInPath_of_mem_pathText hparse hch,
    told_written_iff c.isName_of_mem_settings c.nodup_settings, c.verbatim_settings_iff]

/-- Blanks, `=` and a `%` that starts no escape are told as they are. -/
theorem credentials_told_iff_blank :
    let c : Config := { endpoint := some "unix:///tmp/redis.sock", db := 3
                        username := some "a=b c%", password := some "p%zé" }
    ∃ url, Url.parse c.endpointText = .ok url ∧ url.scheme = "unix"
      ∧ ∃ text, c.connectionUrl = .ok text ∧ told (queryOf text) "user" = some "a=b c%"
        ∧ told (queryOf text) "pass" = some "p%zé" ∧ told (queryOf text) "db" = some "3"
        ∧ told (queryOf text) "protocol" = none := by
  intro c
  have hparse : Url.parse c.endpointText = .ok {
      scheme := "unix"
      host := some (.name "")
      path := .segments ["tmp", "redis.sock"] } := by decide
  have hverbatim : (∀ user, c.username = some user → Url.Verbatim user.toList)
      ∧ ∀ pass, c.password = some pass → Url.Verbatim pass.toList := by
    constructor
    · rintro _ ⟨⟩
      exact ⟨by decide, by decide, by decide, by decide⟩
    · rintro _ ⟨⟩
      exact ⟨by decide, by decide, by decide, by decide⟩
  obtain ⟨text, htext, htold⟩ := credentials_told_iff c hparse (.inl rfl)
  have hlookup := htold.2 hverbatim
  refine ⟨_, hparse, rfl, text, htext, ?_, ?_, ?_, ?_⟩
  · exact (hlookup "user").trans (by decide)
  · exact (hlookup "pass").trans (by decide)
  · exact (hlookup "db").trans (by decide)
  · exact (hlookup "protocol").trans (by decide)

/-- A password can be cut, and select another database. -/
theorem password_selects_database :
    let c : Config := { endpoint := some "unix:///tmp/redis.sock", password := some "a&db=7" }
    ∃ text, c.connectionUrl = .ok text
      ∧ c.settings.lookup "db" = some "0" ∧ told (queryOf text) "db" = some "7"
      ∧ c.settings.lookup "pass" = some "a&db=7" ∧ told (queryOf text) "pass" = some "a" := by
  intro c
  have hparse : Url.parse c.endpointText = .ok {
      scheme := "unix"
      host := some (.name "")
      path := .segments ["tmp", "redis.sock"] } := by decide
  refine ⟨_, c.connectionUrl_of_socket hparse (.inl rfl), rfl, ?_, rfl, ?_⟩
  · decide +kernel
  · decide +kernel

end ObjectStorage.Redis
