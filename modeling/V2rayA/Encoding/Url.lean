import V2rayA.Go.Map
import V2rayA.Go.Net

/-!
# URLs

How `net/url` writes a URL, and what it makes of one. A URL that a program writes is given by its
components (`URL.Parts`), and `URL.Parts.string` is the text. Reading a text is left to the library;
`URL.Parts.IsReadAs` says what a text that was written stands for when it is read again.

* `URL.value_setValue`: a parameter of a query that is being written.
* `URL.Parts.IsReadAs.get`: the parameters that are read are those that were written.
-/

namespace V2rayA.URL

open List Go.Map

/-! ### Escaping -/

/-- The parts of a URL that are escaped in different ways. -/
inductive Encoding
  | host
  | userPassword
  | fragment
  deriving DecidableEq, Repr

/-- Whether `net/url` escapes an ASCII character in a part of a URL. -/
def shouldEscape (mode : Encoding) (c : Char) : Bool :=
  if c.isAlphanum ∨ c ∈ ['-', '_', '.', '~'] then false
  else
    match mode with
    | .host =>
      c.toNat ≠ 39 ∧ -- the apostrophe
        c ∉ ['!', '$', '&', '(', ')', '*', '+', ',', ';', '=', ':', '[', ']', '<', '>', '"']
    | .userPassword => c ∉ ['$', '&', '+', ',', ';', '=']
    | .fragment =>
      c ∉ ['$', '&', '+', ',', '/', ':', ';', '=', '?', '@', '!', '(', ')', '*']

/-- A byte as a percent sign and two hexadecimal digits. -/
def percent (n : ℕ) : String :=
  let digit (d : ℕ) : Char := (Nat.digitChar d).toUpper
  String.ofList ['%', digit (n / 16), digit (n % 16)]

/-- Escape a part of a URL. -/
def escape (mode : Encoding) (s : String) : String :=
  String.join <| s.toList.map fun c =>
    if c.toNat < 128 ∧ ¬shouldEscape mode c then String.singleton c
    else String.join ((String.utf8EncodeChar c).map fun b => percent b.toNat)

/-- `url.QueryEscape`. -/
def queryEscape (s : String) : String :=
  String.join <| s.toList.map fun c =>
    if c = ' ' then "+"
    else if c.isAlphanum ∨ c ∈ ['-', '_', '.', '~'] then String.singleton c
    else String.join ((String.utf8EncodeChar c).map fun b => percent b.toNat)

/-! ### Queries -/

/-- The parameters of a query that is being written. -/
abbrev Values : Type := Go.Map String String

namespace Values

/-- Set a parameter, unless the value is empty. -/
def setValue (q : Values) (k v : String) : Values := if v = "" then q else Go.Map.put q k v

/-- Set parameters, unless their values are empty. -/
def setAll (q : Values) (l : List (String × String)) : Values :=
  l.foldl (fun q e => q.setValue e.1 e.2) q

/-- `Values.Get`: the value of a parameter, empty if there is none. -/
def value (q : Values) (k : String) : String := (Go.Map.get? q k).getD ""

/-- `Values.Encode`. -/
def encode (q : Values) : String :=
  let sorted := q.insertionSort fun e e' => e.1 ≤ e'.1
  String.intercalate "&" (sorted.map fun e => queryEscape e.1 ++ "=" ++ queryEscape e.2)

variable {q : Values} {k k' v : String}

lemma get?_setValue :
    get? (q.setValue k v) k' = if k' = k ∧ v ≠ "" then some v else get? q k' := by
  unfold setValue
  by_cases hv : v = ""
  · simp [hv]
  · simp [hv, get?_put]

@[simp] lemma value_nil : value [] k = "" := rfl

@[simp] lemma value_put : value (put q k v) k' = if k' = k then v else value q k' := by
  unfold value
  rw [get?_put]
  split <;> rfl

@[simp] lemma value_setValue :
    value (q.setValue k v) k' =
      if k' = k then if v = "" then value q k' else v else value q k' := by
  unfold setValue
  by_cases hv : v = ""
  · simp [hv]
  · simp [hv]

@[simp] lemma setAll_nil : q.setAll [] = q := rfl

@[simp] lemma setAll_cons {e : String × String} {l : List (String × String)} :
    q.setAll (e :: l) = (q.setValue e.1 e.2).setAll l := rfl

/-! Queries that are written from a list whose keys have a type of their own -/

section Keys

variable {κ : Type} [DecidableEq κ]

/-- What a list says about a key: the last value that is not empty. -/
def said : List (κ × String) → κ → String
  | [], _ => ""
  | e :: l, k => if said l k = "" then if e.1 = k then e.2 else "" else said l k

variable {l l' : List (κ × String)} {key : κ} {name : κ → String}

@[simp] lemma said_nil : said [] key = "" := rfl

@[simp] lemma said_cons {e : κ × String} :
    said (e :: l) key = if said l key = "" then if e.1 = key then e.2 else "" else said l key := rfl

lemma said_append :
    said (l ++ l') key = if said l' key = "" then said l key else said l' key := by
  induction l with
  | nil => simp
  | cons e l ih =>
    rw [cons_append, said_cons, ih, said_cons]
    by_cases h : said l' key = "" <;> simp [h]

lemma said_eq_empty_of_notMem (h : key ∉ l.map Prod.fst) : said l key = "" := by
  induction l with
  | nil => rfl
  | cons e l ih =>
    rw [map_cons, mem_cons, not_or] at h
    rw [said_cons, ih h.2, if_pos rfl, if_neg (Ne.symm h.1)]

/-- What a list that was made with a function says. -/
lemma said_map {α : Type} {f : α → κ} (hf : Function.Injective f) {g : α → String} {l : List α}
    {a : α} (ha : a ∈ l) : said (l.map fun a => (f a, g a)) (f a) = g a := by
  induction l with
  | nil => cases ha
  | cons b l ih =>
    rw [map_cons, said_cons]
    by_cases hl : a ∈ l
    · rw [ih hl]
      by_cases hb : b = a
      · simp [hb]
      · have hne : f b ≠ f a := fun h => hb (hf h)
        by_cases hg : g a = ""
        · simp [hne]
        · simp [hg]
    · obtain rfl : a = b := (mem_cons.mp ha).resolve_right hl
      have hnot : f a ∉ (l.map fun a => (f a, g a)).map Prod.fst := by
        rw [map_map]
        rintro hmem
        obtain ⟨b, hb, heq⟩ := mem_map.mp hmem
        exact hl (hf heq ▸ hb)
      rw [said_eq_empty_of_notMem hnot, if_pos rfl, if_pos rfl]

/-- What a query that was written from a list has for a key. -/
lemma value_setAll_map (hname : Function.Injective name) :
    value (q.setAll (l.map fun e => (name e.1, e.2))) (name key) =
      if said l key = "" then value q (name key) else said l key := by
  induction l generalizing q with
  | nil => rfl
  | cons e l ih =>
    rw [map_cons, setAll_cons, ih, said_cons, value_setValue]
    by_cases hl : said l key = ""
    · by_cases he : e.1 = key
      · simp [hl, he]
      · have hne : name key ≠ name e.1 := fun h => he (hname h).symm
        simp [hl, he, hne]
    · simp [hl]

end Keys

end Values

@[simp] lemma ite_eq_empty {v : String} : (if v = "" then "" else v) = v := by
  by_cases hv : v = ""
  · rw [if_pos hv, hv]
  · rw [if_neg hv]

/-! ### Components -/

/-- The user of a URL. -/
structure Userinfo where
  username : String
  /-- `none` if no password is set, which is not the same as an empty one. -/
  password : Option String := none
  deriving DecidableEq, Repr

/-- `Userinfo.String`. -/
def Userinfo.string (user : Userinfo) : String :=
  escape .userPassword user.username ++
    user.password.elim "" fun password => ":" ++ escape .userPassword password

/-- The components of a URL that a program writes. -/
structure Parts where
  scheme : String
  user : Option Userinfo := none
  hostname : String
  port : String
  query : Values := []
  fragment : String := ""
  deriving DecidableEq, Repr

/-- `URL.String`. -/
def Parts.string (p : Parts) : String :=
  let scheme := if p.scheme = "" then "" else p.scheme ++ ":"
  let user := p.user.elim "" fun user => user.string ++ "@"
  let query := if p.query = [] then "" else "?" ++ p.query.encode
  let fragment := if p.fragment = "" then "" else "#" ++ escape .fragment p.fragment
  scheme ++ "//" ++ user ++ escape .host (Go.joinHostPort p.hostname p.port) ++ query ++ fragment

end URL

/-- What `url.Parse` returns. -/
structure URL where
  scheme : String
  user : Option URL.Userinfo := none
  hostname : String
  port : String
  path : String := ""
  rawQuery : String := ""
  /-- The values of each parameter of the query. -/
  query : String → List String := fun _ => []
  fragment : String := ""

namespace URL

/-- `u.Query().Get(k)`. -/
def get (u : URL) (k : String) : String := (u.query k).headD ""

/-- `u.User.Username()`, which is empty without a user. -/
def username (u : URL) : String := u.user.elim "" Userinfo.username

/-- `u.User.Password()`, empty if there is none. -/
def password (u : URL) : String := (u.user.bind Userinfo.password).getD ""

/-- A text that was written from components is read as a URL with these components. -/
structure Parts.IsReadAs (p : Parts) (u : URL) : Prop where
  scheme : u.scheme = p.scheme
  user : u.user = p.user
  hostname : u.hostname = p.hostname
  port : u.port = p.port
  path : u.path = ""
  rawQuery : p.query = [] → u.rawQuery = ""
  query : ∀ k, u.query k = (Go.Map.get? p.query k).toList
  fragment : u.fragment = p.fragment

lemma Parts.IsReadAs.get {p : Parts} {u : URL} (h : p.IsReadAs u) (k : String) :
    u.get k = p.query.value k := by
  unfold URL.get Values.value
  rw [h.query]
  cases Go.Map.get? p.query k <;> rfl

/-- The URL that components are read as. -/
def Parts.url (p : Parts) : URL where
  scheme := p.scheme
  user := p.user
  hostname := p.hostname
  port := p.port
  rawQuery := p.query.encode
  query k := (Go.Map.get? p.query k).toList
  fragment := p.fragment

lemma Parts.isReadAs_url (p : Parts) : p.IsReadAs p.url where
  scheme := rfl
  user := rfl
  hostname := rfl
  port := rfl
  path := rfl
  rawQuery h := by
    rw [Parts.url, h]
    rfl
  query _ := rfl
  fragment := rfl

end V2rayA.URL
