import ServiceDiagram.Payload.Link
import ServiceDiagram.Proofs.Payload.Alphabet
import ServiceDiagram.Proofs.Zlib.Stream

/-!
# Links are read back

Behind the last mark of a link stands its payload, and the payload gives the text without escapes
again, for every compressor whose streams can be read back (`Zlib.Inflates`).

* `behindLast? word cs`   what a text has behind the last occurrence of a word;
* `shown? inflate? link`  the text that a link shows;
* `payloadBy_eq_iff`      two texts have one payload if they have one normal form;
* `urlBy_eq_iff`          a link tells its variant and its payload apart;
* `base_slashes`          the slashes at the end of the server are no part of a link.
-/

namespace ServiceDiagram

namespace Text

variable {α : Type} [DecidableEq α]

/-- the text behind the last occurrence of a word, if there is one -/
def behindLast? (word : List α) : List α → Option (List α)
  | [] => behind? word []
  | c :: cs => (behindLast? word cs).or (behind? word (c :: cs))

theorem behindLast?_of_not_mem {a : α} {cs : List α} (h : a ∉ cs) (word : List α) :
    behindLast? (a :: word) cs = none := by
  induction cs with
  | nil => rfl
  | cons c cs ih =>
    rw [List.mem_cons, not_or] at h
    rw [behindLast?, ih h.2, Option.none_or, behind?, if_neg h.1]

theorem behindLast?_append {a : α} {word rest : List α} (hword : a ∉ word) (hrest : a ∉ rest)
    (front : List α) : behindLast? (a :: word) (front ++ (a :: word ++ rest)) = some rest := by
  induction front with
  | nil =>
    have hnone : a ∉ word ++ rest := fun h => (List.mem_append.mp h).elim hword hrest
    show (behindLast? (a :: word) (word ++ rest)).or (behind? (a :: word) (a :: word ++ rest)) = _
    rw [behindLast?_of_not_mem hnone, Option.none_or, behind?_append]
  | cons c front ih => rw [List.cons_append, behindLast?, ih, Option.some_or]

end Text

namespace Link

open Payload

variable {deflate : Bytes → Bytes} {inflate? : Bytes → Option (Bytes × Nat)}
  {server text text' : String} {variant variant' : Variant}

def stream (deflate : Bytes → Bytes) (text : String) : Bytes :=
  deflate (Text.encode (Escape.normalize text))

theorem toList_payloadBy (deflate : Bytes → Bytes) (text : String) :
    (payloadBy deflate text).toList = encode64 (stream deflate text) := String.toList_ofList

/-! ### the payload -/

theorem decode64?_payloadBy (deflate : Bytes → Bytes) (text : String) :
    decode64? (payloadBy deflate text).toList = some (filled (stream deflate text)) := by
  rw [toList_payloadBy, decode64?_encode64]

theorem inflate?_filled (h : Zlib.Inflates inflate? deflate) (text : String) :
    inflate? (filled (stream deflate text)) =
      some (Text.encode (Escape.normalize text), (stream deflate text).length) :=
  h _ _

/-- **Two texts have one payload exactly if they have one normal form.** -/
theorem payloadBy_eq_iff (h : Zlib.Inflates inflate? deflate) :
    payloadBy deflate text = payloadBy deflate text' ↔
      Escape.normalize text = Escape.normalize text' := by
  constructor
  · intro hp
    have hdecode := decode64?_payloadBy deflate text
    rw [hp, decode64?_payloadBy] at hdecode
    have hinflate := inflate?_filled h text
    rw [← Option.some.inj hdecode, inflate?_filled h text'] at hinflate
    have hbytes := congrArg Prod.fst (Option.some.inj hinflate)
    exact (Text.encode_injective hbytes).symm
  · intro hn
    unfold payloadBy
    rw [hn]

/-! ### the link -/

theorem toList_urlBy (deflate : Bytes → Bytes) (server : String) (variant : Variant)
    (text : String) :
    (urlBy deflate server variant text).toList =
      (base server).toList ++ ('/' :: variant.path.toList ++
        ('/' :: ("~1".toList ++ (payloadBy deflate text).toList))) := by
  simp only [urlBy, String.toList_append, List.append_assoc]
  rfl

theorem behindLast?_urlBy (deflate : Bytes → Bytes) (server : String) (variant : Variant)
    (text : String) :
    Text.behindLast? "~1".toList (urlBy deflate server variant text).toList =
      some (payloadBy deflate text).toList := by
  have hrest : '~' ∉ (payloadBy deflate text).toList := by
    rw [toList_payloadBy]
    exact tilde_not_mem _
  have hword : '~' ∉ ['1'] := by decide
  have hmark : "~1".toList = ['~', '1'] := rfl
  have hfront : (urlBy deflate server variant text).toList =
      ((base server).toList ++ '/' :: variant.path.toList ++ ['/']) ++
        (['~', '1'] ++ (payloadBy deflate text).toList) := by
    rw [toList_urlBy, hmark, List.append_assoc, List.append_assoc, List.singleton_append]
  rw [hfront, hmark]
  exact Text.behindLast?_append hword hrest _

/-- **The text that a link shows**, if there is one: what its payload gives -/
def shown? (inflate? : Bytes → Option (Bytes × Nat)) (link : String) : Option String := do
  let payload ← Text.behindLast? "~1".toList link.toList
  let stream ← decode64? payload
  let (data, _) ← inflate? stream
  Text.decode? data

theorem shown?_urlBy (h : Zlib.Inflates inflate? deflate) (server : String) (variant : Variant)
    (text : String) :
    shown? inflate? (urlBy deflate server variant text) = some (Escape.normalize text) := by
  simp only [shown?, behindLast?_urlBy, decode64?_payloadBy, inflate?_filled h,
    Text.decode?_encode, Option.bind_eq_bind, Option.bind_some]

/-- the variants are told apart by the first letter of their path -/
theorem path_append_eq {cs ds : List Char}
    (h : variant.path.toList ++ cs = variant'.path.toList ++ ds) : variant = variant' ∧ cs = ds := by
  have hne : ∀ cs ds : List Char,
      Variant.picture.path.toList ++ cs ≠ Variant.markup.path.toList ++ ds := by
    intro cs ds he
    have hhead : 's' = 'u' := (List.cons.inj he).1
    exact absurd hhead (by decide)
  cases variant <;> cases variant'
  case picture.picture => exact ⟨rfl, List.append_cancel_left h⟩
  case picture.markup => exact absurd h (hne _ _)
  case markup.picture => exact absurd h.symm (hne _ _)
  case markup.markup => exact ⟨rfl, List.append_cancel_left h⟩

/-- **The links of one server tell variants and payloads apart.** -/
theorem urlBy_eq_iff (deflate : Bytes → Bytes) (server : String) :
    urlBy deflate server variant text = urlBy deflate server variant' text' ↔
      variant = variant' ∧ payloadBy deflate text = payloadBy deflate text' := by
  constructor
  · intro h
    have hlists := congrArg String.toList h
    rw [toList_urlBy, toList_urlBy] at hlists
    have hpath := (List.cons.inj (List.append_cancel_left hlists)).2
    obtain ⟨hvariant, hrest⟩ := path_append_eq hpath
    have hpayload := List.append_cancel_left (List.cons.inj hrest).2
    exact ⟨hvariant, String.toList_inj.mp hpayload⟩
  · rintro ⟨rfl, hp⟩
    unfold urlBy
    rw [hp]

def slashes (n : Nat) : String := String.ofList (List.replicate n '/')

theorem base_slashes (stem : String) (n : Nat) : base (stem ++ slashes n) = base stem := by
  have hdrop : ∀ cs : List Char,
      (List.replicate n '/' ++ cs).dropWhile (· == '/') = cs.dropWhile (· == '/') := by
    intro cs
    induction n with
    | zero => rfl
    | succ n ih =>
      rw [List.replicate_succ, List.cons_append, List.dropWhile_cons_of_pos (by decide), ih]
  unfold base slashes
  rw [String.toList_append, String.toList_ofList, List.reverse_append, List.reverse_replicate,
    hdrop]

/-- **A link carries the text without escapes.**  Behind its last mark stands the payload; the
payload gives the compressed stream and at most two zero bytes, and these give the text.  So the
links of one server are the same exactly if the variants and the texts without escapes are, and
slashes at the end of the server make no difference. -/
theorem urlBy_carries (h : Zlib.Inflates inflate? deflate) (server : String) (variant : Variant)
    (text : String) :
    (Text.behindLast? "~1".toList (urlBy deflate server variant text).toList =
        some (payloadBy deflate text).toList ∧
      ∃ zeros ≤ 2,
        decode64? (payloadBy deflate text).toList =
          some (stream deflate text ++ List.replicate zeros 0) ∧
        inflate? (stream deflate text ++ List.replicate zeros 0) =
          some (Text.encode (Escape.normalize text), (stream deflate text).length)) ∧
    (∀ variant' text', urlBy deflate server variant text = urlBy deflate server variant' text' ↔
      variant = variant' ∧ Escape.normalize text = Escape.normalize text') ∧
    ∀ m n, urlBy deflate (server ++ slashes m) variant text =
      urlBy deflate (server ++ slashes n) variant text := by
  refine ⟨⟨behindLast?_urlBy deflate server variant text, ?_⟩, fun variant' text' => ?_,
    fun m n => ?_⟩
  · exact ⟨_, fill_le _, decode64?_payloadBy deflate text, inflate?_filled h text⟩
  · rw [urlBy_eq_iff, payloadBy_eq_iff h]
  · unfold urlBy
    rw [base_slashes, base_slashes]

/-- an escape for a blank, and the blank -/
theorem urlBy_carries_blank :
    Zlib.Inflates Zlib.inflate? Zlib.deflate ∧
      url "http://localhost/" .markup "A%20B" = url "http://localhost/" .markup "A B" ∧
      ∃ bs, decode64? (payload "A%20B").toList = some bs ∧
        (Zlib.inflate? bs).map Prod.fst = some (Text.encode "A B") := by
  have hescape : Escape.normalize "A%20B" = "A B" := by decide +kernel
  have hblank : Escape.normalize "A B" = "A B" := by decide +kernel
  obtain ⟨⟨-, zeros, -, hdecode, hinflate⟩, hsame, -⟩ :=
    urlBy_carries Zlib.inflates_deflate "http://localhost/" .markup "A%20B"
  refine ⟨Zlib.inflates_deflate, (hsame _ _).mpr ⟨rfl, hescape.trans hblank.symm⟩, _, hdecode, ?_⟩
  rw [hinflate, hescape]
  rfl

end Link

end ServiceDiagram
