import Carpinchos.Swamp.Almacen
import Carpinchos.Swamp.Lectura
import Mathlib.Data.List.GetD

/-!
# The way of a page to SWAmP and back

A frame is sent as a string, stored as a block of 64 bytes and read back as a line. The
theorem says which contents of a frame come back as they were, whatever is in memory that
was never written.
-/

namespace Carpinchos.Swamp

open Outcome Runs Wire Slots

variable {cfg : Config} {s s' : Estado} {i : ℕ} {b : List UInt8}

section Definiciones

/-- What `serializar_escritura_swap` copies of a buffer that other memory follows: up to the
first zero, which `strlen` looks for. -/
def mensajeDe (memoria : List UInt8) : Option (List UInt8) :=
  (memoria.findIdx? fun c => c = 0).map fun strlen => memoria.take (strlen + 1)

/-- The page with the content `b` is accepted by SWAmP, and the next request, which asks for
it, gets `b` back: for every memory behind the buffer and all uninitialised bytes. -/
def VuelveIgual (cfg : Config) (pid pagina : ℤ) (b : List UInt8) (s : Estado) : Prop :=
  ∀ ajena msg basura basura' s₁, mensajeDe (b ++ ajena) = some msg →
    escribirSwap cfg pid pagina msg basura s = .ok (encodeInt32 0, s₁) →
    ∃ r s₂, leerSwap cfg pid pagina basura' s₁ = .ok (r, s₂) ∧
      lecturaSwamp cfg.tamanioPagina r = some (some b, [])

/-- A content that comes back: its last byte is zero, it is a string at least as far as 64
bytes are copied, nothing but zeros follows those, and there is no newline before the end. -/
structure Conservable (tamanioPagina : ℕ) (b : List UInt8) : Prop where
  final : b.getD (tamanioPagina - 1) 0 = 0
  lineas : ∀ j, j + 1 < tamanioPagina - 1 → b.getD j 0 ≠ 10
  cadena : ∀ j, j + 1 < min (tamanioPagina - 1) bytesCopiados → b.getD j 0 ≠ 0
  resto : ∀ j, bytesCopiados ≤ j → j < tamanioPagina - 1 → b.getD j 0 = 0

end Definiciones

section Lineas

theorem hastaNuevaLinea_prefix (l : List UInt8) : hastaNuevaLinea l <+: l := by
  induction l with
  | nil => exact List.prefix_rfl
  | cons c cs ih =>
    unfold hastaNuevaLinea
    split
    · exact ⟨cs, rfl⟩
    · exact (List.prefix_cons_inj c).2 ih

theorem hastaNuevaLinea_eq_self_iff (l : List UInt8) :
    hastaNuevaLinea l = l ↔ ∀ j, j + 1 < l.length → l.getD j 0 ≠ 10 := by
  induction l with
  | nil => simp [hastaNuevaLinea]
  | cons c cs ih =>
    unfold hastaNuevaLinea
    split
    · next hc =>
      constructor
      · intro h j hj
        obtain rfl : cs = [] := (List.cons.inj h).2.symm
        simp at hj
      · intro h
        cases cs with
        | nil => rfl
        | cons d ds => exact absurd hc (h 0 (by simp))
    · next hc =>
      rw [List.cons.injEq, ih]
      constructor
      · rintro ⟨-, h⟩ j hj
        cases j with
        | zero => exact hc
        | succ j => exact h j (by simpa using hj)
      · intro h
        exact ⟨rfl, fun j hj => h (j + 1) (by simpa using hj)⟩

/-- `fgets` fills the whole buffer, whatever it contains, exactly when the line is as long as
it may be. -/
theorem fgets_iff {n : ℕ} (hn : 0 < n) {resto linea : List UInt8} (hlargo : linea.length = n - 1)
    (htake : resto.take (n - 1) = linea) (hb : b.length = n) :
    (∀ g : ℕ → UInt8, fgets n resto ((List.range n).map g) = b) ↔
      (∀ j, j + 1 < linea.length → linea.getD j 0 ≠ 10) ∧ b = linea ++ [0] := by
  rw [← hastaNuevaLinea_eq_self_iff]
  have hprefijo := hastaNuevaLinea_prefix linea
  have hvacia : hastaNuevaLinea linea = [] → n = 1 := by
    intro h
    cases linea with
    | nil => simp at hlargo; omega
    | cons c cs =>
      unfold hastaNuevaLinea at h
      split at h <;> cases h
  have hfgets : ∀ g : ℕ → UInt8, fgets n resto ((List.range n).map g) =
      pisar (hastaNuevaLinea linea ++ [0]) ((List.range n).map g) := by
    intro g
    simp only [fgets, htake]
    rw [if_neg]
    rintro ⟨h, hno⟩
    exact hno (hvacia h)
  simp only [hfgets]
  constructor
  · intro h
    have hcorta : (hastaNuevaLinea linea).length = linea.length := by
      by_contra hne
      have hle := hprefijo.length_le
      -- the byte after the final zero comes from the buffer
      have hbyte := congrArg (fun l => l.getD ((hastaNuevaLinea linea).length + 1) 0)
        (h fun j => b.getD j 0 + 1)
      have hlt : (hastaNuevaLinea linea).length + 1 < n := by omega
      simp only [pisar, List.getD_eq_getElem?_getD, List.length_append, List.length_singleton,
        le_refl, List.getElem?_append_right, Nat.sub_self, List.getElem?_drop, Nat.add_zero,
        List.getElem?_map, List.getElem?_range hlt, Option.map_some, Option.getD_some] at hbyte
      exact absurd hbyte (by simp)
    have hlinea := hprefijo.eq_of_length hcorta
    refine ⟨hlinea, ?_⟩
    rw [← h fun _ => 0, hlinea, pisar, List.drop_of_length_le, List.append_nil]
    simp only [List.length_map, List.length_range, List.length_append, List.length_singleton]
    omega
  · rintro ⟨hlinea, rfl⟩ g
    rw [hlinea, pisar, List.drop_of_length_le, List.append_nil]
    simp only [List.length_map, List.length_range, List.length_append, List.length_singleton]
    omega

end Lineas

section Bytes

variable {ajena msg : List UInt8} {basura : ℕ → UInt8} {n : ℕ}

/-- The bytes of a slot after a write, of which the ones past those copied were never
written. -/
def byteGuardado (msg : List UInt8) (basura : ℕ → UInt8) (j : ℕ) : UInt8 :=
  if j < bytesCopiados then msg.getD j (basura j) else 0

theorem mensajeDe_eq_some (h : mensajeDe (b ++ ajena) = some msg) :
    ∃ strlen, msg = (b ++ ajena).take (strlen + 1) ∧ (b ++ ajena)[strlen]? = some 0 ∧
      ∀ j < strlen, (b ++ ajena).getD j 0 ≠ 0 := by
  obtain ⟨strlen, hstrlen, rfl⟩ := Option.map_eq_some_iff.1 h
  obtain ⟨hlt, hcero, hantes⟩ := List.findIdx?_eq_some_iff_getElem.1 hstrlen
  refine ⟨strlen, rfl, ?_, fun j hj => ?_⟩
  · rw [List.getElem?_eq_getElem hlt]
    exact congrArg some (by simpa using hcero)
  · have hno := hantes j hj
    have hlt' : j < (b ++ ajena).length := by omega
    rw [List.getD_eq_getElem?_getD, List.getElem?_eq_getElem hlt', Option.getD_some]
    simpa using hno

theorem exists_mensajeDe (b : List UInt8) : ∃ msg, mensajeDe (b ++ [0]) = some msg := by
  have hsome : ((b ++ [0]).findIdx? fun c => decide (c = 0)).isSome = true := by simp
  obtain ⟨strlen, hstrlen⟩ := Option.isSome_iff_exists.1 hsome
  exact ⟨_, Option.map_eq_some_iff.2 ⟨strlen, hstrlen, rfl⟩⟩

theorem eq_map_append_iff {f : ℕ → UInt8} (hn : 0 < n) (hb : b.length = n) :
    b = (List.range (n - 1)).map f ++ [0] ↔
      (∀ j < n - 1, b.getD j 0 = f j) ∧ b.getD (n - 1) 0 = 0 := by
  constructor
  · intro h
    constructor
    · intro j hj
      rw [h, List.getD_append _ _ _ _ (by simpa using hj)]
      simp [hj]
    · rw [h, List.getD_append_right _ _ _ _ (by simp)]
      simp
  · rintro ⟨hbytes, hfinal⟩
    refine List.ext_getElem (by simp [hb]; omega) fun j hj hj' => ?_
    have hget : b[j] = b.getD j 0 := by
      rw [List.getD_eq_getElem?_getD, List.getElem?_eq_getElem hj, Option.getD_some]
    rw [hget]
    by_cases hjn : j < n - 1
    · rw [List.getElem_append_left (by simpa using hjn), hbytes j hjn]
      simp
    · obtain rfl : j = n - 1 := by omega
      rw [hfinal, List.getElem_append_right (by simp)]
      simp

theorem Conservable.byteGuardado (h : Conservable n b) (hn : 0 < n) (hb : b.length = n)
    (hmsg : mensajeDe (b ++ ajena) = some msg) {j : ℕ} (hj : j < n - 1) :
    byteGuardado msg basura j = b.getD j 0 := by
  obtain ⟨strlen, rfl, hcero, hantes⟩ := mensajeDe_eq_some hmsg
  unfold Swamp.byteGuardado
  split
  · next hcopiado =>
    have hjb : j < b.length := by omega
    have hlarga : j < strlen + 1 := by
      by_contra hcorta
      -- a zero before the last byte that is copied
      have hs : strlen < b.length := by omega
      rw [List.getElem?_append_left hs] at hcero
      refine h.cadena strlen (by omega) ?_
      rw [List.getD_eq_getElem?_getD, hcero, Option.getD_some]
    rw [List.getD_eq_getElem?_getD, List.getElem?_take_of_lt hlarga, List.getElem?_append_left hjb,
      List.getD_eq_getElem?_getD, List.getElem?_eq_getElem hjb, Option.getD_some, Option.getD_some]
  · next hresto => exact (h.resto j (by omega) hj).symm

/-- A content is as described exactly when what is stored of it, up to the last byte, is a
line with the same bytes and the last byte is zero. -/
theorem conservable_iff (hn : 0 < n) (hb : b.length = n) :
    Conservable n b ↔ ∀ ajena msg basura, mensajeDe (b ++ ajena) = some msg →
      (∀ j, j + 1 < n - 1 → byteGuardado msg basura j ≠ 10) ∧
        b = (List.range (n - 1)).map (byteGuardado msg basura) ++ [0] := by
  constructor
  · intro h ajena msg basura hmsg
    refine ⟨fun j hj => ?_, ?_⟩
    · rw [h.byteGuardado hn hb hmsg (by omega)]
      exact h.lineas j hj
    · refine (eq_map_append_iff hn hb).2 ⟨fun j hj => ?_, h.final⟩
      rw [h.byteGuardado hn hb hmsg hj]
  · intro h
    obtain ⟨msg, hmsg⟩ := exists_mensajeDe b
    obtain ⟨hlineas, hbytes⟩ := h [0] msg (fun j => b.getD j 0 + 1) hmsg
    obtain ⟨higuales, hfinal⟩ := (eq_map_append_iff hn hb).1 hbytes
    refine ⟨hfinal, fun j hj => ?_, fun j hj hcero => ?_, fun j hj hlt => ?_⟩
    · rw [higuales j (by omega)]
      exact hlineas j hj
    · -- the byte after the string would come from the buffer of the server
      obtain ⟨strlen, rfl, -, hantes⟩ := mensajeDe_eq_some hmsg
      have hstrlen : strlen ≤ j := by
        by_contra hlt
        refine hantes j (by omega) ?_
        rw [List.getD_append _ _ _ _ (by omega)]
        exact hcero
      have hfuera : ((b ++ [0]).take (strlen + 1)).getD (j + 1) (b.getD (j + 1) 0 + 1) =
          b.getD (j + 1) 0 + 1 := by
        refine List.getD_eq_default _ _ ?_
        rw [List.length_take]
        omega
      have hsigue := higuales (j + 1) (by omega)
      rw [byteGuardado, if_pos (by omega), hfuera] at hsigue
      exact absurd hsigue (by simp)
    · rw [higuales j hlt, byteGuardado, if_neg (by omega)]

end Bytes

section Limpieza

variable {pid pagina : ℤ} {bytes r : List UInt8} {m : Marco} {x : Peticion × Basura}

/-- Past the first 64 bytes of each slot the files keep the zeros of `crear_archivos`. -/
structure Limpia (cfg : Config) (s : Estado) : Prop where
  bien : Bien cfg s
  ceros : ∀ archivo i j, bytesCopiados ≤ j → j < cfg.tamanioPagina →
    s.contenido archivo (cfg.tamanioPagina * i + j) = 0

theorem Guarda.limpia (h : Guarda cfg pid pagina bytes i m s s') (hl : Limpia cfg s)
    (hbytes : bytes.length = bytesCopiados) : Limpia cfg s' := by
  refine ⟨h.bien hl.bien, fun archivo k j hj hlt => ?_⟩
  rw [h.contenido]
  by_cases ha : archivo = m.archivo
  · subst ha
    rw [contenido_guardar_otro, hl.ceros _ k j hj hlt]
    rw [hbytes]
    rcases lt_trichotomy k m.marco with hk | rfl | hk
    · have hle := Nat.mul_le_mul_left cfg.tamanioPagina (Nat.succ_le_of_lt hk)
      rw [Nat.mul_succ] at hle
      omega
    · omega
    · have hle := Nat.mul_le_mul_left cfg.tamanioPagina (Nat.succ_le_of_lt hk)
      rw [Nat.mul_succ] at hle
      omega
  · simp only [guardar, Function.update_of_ne ha]
    exact hl.ceros archivo k j hj hlt

theorem procesar_limpia (hl : Limpia cfg s) (h : serverProcesarMensaje cfg x s = .ok (r, s')) :
    Limpia cfg s' := by
  cases procesar_cambio hl.bien h with
  | guarda _ hg => exact hg.limpia hl (by simp [bytesDesde])
  | sirve _ hs => exact ⟨hs.bien hl.bien, hs.contenido ▸ hl.ceros⟩
  | conserva _ _ _ hc => exact ⟨hc.bien hl.bien, hc.contenido ▸ hl.ceros⟩

theorem run_limpia {basura : ℕ → ℤ} {xs : List (Peticion × Basura)} {os : List (List UInt8)}
    (h : run (serverProcesarMensaje cfg) xs (inicial cfg basura) = .ok (os, s)) :
    Limpia cfg s := by
  have hpaso : ∀ x s, True → Limpia cfg s →
      Spec (serverProcesarMensaje cfg x s) (fun r => Limpia cfg r.2) (fun _ => True) :=
    fun x s _ hl => spec_of_ok fun r hr => procesar_limpia hl hr
  have hinicial : Limpia cfg (inicial cfg basura) :=
    ⟨inicial_bien cfg basura, fun _ _ _ _ _ => rfl⟩
  exact (run_invariant hpaso xs _ (fun _ _ => trivial) hinicial).post_of_eq h

end Limpieza

section Viaje

variable {pid pagina : Entero} {basura : Basura} {msg bytes : List UInt8} {s₁ : Estado}
  {m : Marco}

theorem escribirSwap_guarda {pid pagina : ℤ} (hb : Bien cfg s)
    (h : escribirSwap cfg pid pagina msg basura s = .ok (encodeInt32 0, s₁)) :
    ∃ i m, Guarda cfg pid pagina (bytesDesde msg basura.buffer) i m s s₁ := by
  generalize hr : encodeInt32 0 = r at h
  cases escribirSwap_cambio hb h with
  | guarda _ hg => exact ⟨_, _, hg⟩
  | conserva hescribir _ _ _ =>
    have habsurdo := hescribir _ _ _ rfl
    rw [← hr] at habsurdo
    exact absurd habsurdo (by decide)

/-- Whether a write is accepted does not depend on the bytes. -/
theorem escribirSwap_acepta {pid pagina : ℤ}
    (h : escribirSwap cfg pid pagina msg basura s = .ok (encodeInt32 0, s₁))
    (msg' : List UInt8) (memoria : Basura) :
    ∃ s₂, escribirSwap cfg pid pagina msg' memoria s = .ok (encodeInt32 0, s₂) := by
  obtain ⟨⟨archivo, t⟩, ht, h⟩ := bind_eq_ok.1 h
  obtain ⟨libre, hlibre, h⟩ := bind_eq_ok.1 h
  have hno : encodeInt32 (-1) ≠ encodeInt32 0 := by decide
  cases libre with
  | none => exact absurd (Prod.mk.inj (Except.ok.inj h)).1 hno
  | some k =>
    cases archivo with
    | none => exact absurd (Prod.mk.inj (Except.ok.inj h)).1 hno
    | some archivo =>
      obtain ⟨⟨asignacion, u⟩, hu, h⟩ := bind_eq_ok.1 h
      dsimp only at h hlibre
      split at h
      · next hcero =>
        simp only [escribirSwap, ht, ok_bind, hlibre, hu, if_pos hcero]
        exact ⟨_, rfl⟩
      · exact absurd (Prod.mk.inj (Except.ok.inj h)).1 hno

theorem Guarda.conseguirMarco {pid pagina : ℤ} {bytes : List UInt8}
    (h : Guarda cfg pid pagina bytes i m s s') (hpagina : pagina ≠ -1)
    (hno : conseguirMarco pid pagina s = none) : conseguirMarco pid pagina s' = some i := by
  have hranura := h.ranura hpagina
  have hfalta := (conseguirMarco_eq_none hpagina).1 hno
  cases hj : Swamp.conseguirMarco pid pagina s' with
  | none =>
    refine absurd ⟨i, ?_⟩ ((conseguirMarco_eq_none hpagina).1 hj)
    rw [hranura, Function.update_self]
  | some j =>
    have hpos := conseguirMarco_eq_some hpagina hj
    rw [hranura, Function.update_apply] at hpos
    split at hpos
    · next hji => rw [hji]
    · exact absurd ⟨j, hpos⟩ hfalta

theorem take_drop_bytesDe {archivo : String} {d n : ℕ} (h : d + n ≤ cfg.tamanioSwamp) :
    ((bytesDe cfg archivo s).drop d).take n =
      (List.range n).map fun j => s.contenido archivo (d + j) := by
  refine List.ext_getElem ?_ fun j hj hj' => ?_
  · simp only [bytesDe, List.length_take, List.length_drop, List.length_map, List.length_range]
    omega
  · simp [bytesDe]

theorem Guarda.linea {pid pagina : ℤ}
    (h : Guarda cfg pid pagina (bytesDesde msg basura.buffer) i m s s₁) (hl : Limpia cfg s)
    (huno : cfg.archivosSwamp.length = 1) :
    ((bytesDe cfg m.archivo s₁).drop (i * cfg.tamanioPagina)).take (cfg.tamanioPagina - 1) =
      (List.range (cfg.tamanioPagina - 1)).map (byteGuardado msg basura.buffer) := by
  obtain ⟨-, hmarco, hi⟩ := hl.bien.unico huno h.hueco
  have hle : cfg.tamanioPagina * (i + 1) ≤ cfg.tamanioSwamp :=
    (Nat.mul_le_mul_left _ hi).trans (Nat.mul_div_le _ _)
  have hpos := cfg.pagina_pos
  rw [Nat.mul_succ] at hle
  rw [Nat.mul_comm i, take_drop_bytesDe (by omega)]
  refine List.map_congr_left fun j hj => ?_
  have hlt := List.mem_range.1 hj
  rw [h.contenido, hmarco, byteGuardado]
  split
  · next hcopiado =>
    rw [contenido_guardar (by simpa [bytesDesde] using hcopiado)]
    simp [bytesDesde, hcopiado]
  · next hresto =>
    rw [contenido_guardar_otro, hl.ceros _ i j (by omega) (by omega)]
    simp only [bytesDesde, List.length_map, List.length_range]
    omega

theorem Guarda.leerSwap {pid pagina : ℤ} {bytes : List UInt8}
    (h : Guarda cfg pid pagina bytes i m s s₁) (hpagina : pagina ≠ -1)
    (hno : Swamp.conseguirMarco pid pagina s = none) (basura' : Basura) :
    ∃ s₂, leerSwap cfg pid pagina basura' s₁ =
      .ok (respuestaConPagina pid pagina cfg.tamanioPagina
        (contenidoServido cfg m.archivo i basura' s₁), s₂) := by
  have hi := h.conseguirMarco hpagina hno
  obtain ⟨r, s₂, hleer⟩ := exists_leerSwap cfg pid pagina basura' s₁
  rcases leerSwap_respuesta hleer with ⟨archivo, k, ha, hk, rfl⟩ | ⟨hfalta | hfalta, -⟩
  · rw [h.conocido] at ha
    rw [hi] at hk
    cases ha
    cases hk
    exact ⟨s₂, hleer⟩
  · rw [h.conocido] at hfalta
    cases hfalta
  · rw [hi] at hfalta
    cases hfalta

/-- The page is served with the content `b`, whatever the buffer of `fgets` holds, exactly
when `b` is what was stored, as a line with its zero. -/
theorem Guarda.contenidoServido_iff {pid pagina : ℤ}
    (h : Guarda cfg pid pagina (bytesDesde msg basura.buffer) i m s s₁) (hl : Limpia cfg s)
    (huno : cfg.archivosSwamp.length = 1) (hb : b.length = cfg.tamanioPagina) :
    (∀ basura', contenidoServido cfg m.archivo i basura' s₁ = b) ↔
      (∀ j, j + 1 < cfg.tamanioPagina - 1 → byteGuardado msg basura.buffer j ≠ 10) ∧
        b = (List.range (cfg.tamanioPagina - 1)).map (byteGuardado msg basura.buffer) ++ [0] := by
  have hiff := fgets_iff cfg.pagina_pos (by simp) (h.linea hl huno) hb
  simp only [List.length_map, List.length_range] at hiff
  constructor
  · intro hservido
    obtain ⟨hlineas, hbytes⟩ := hiff.1 fun g => hservido ⟨g, g⟩
    refine ⟨fun j hj => ?_, hbytes⟩
    have hj' : j < cfg.tamanioPagina - 1 := by omega
    simpa [hj'] using hlineas j hj
  · rintro ⟨hlineas, hbytes⟩ basura'
    refine hiff.2 ⟨fun j hj => ?_, hbytes⟩ basura'.contenido
    have hj' : j < cfg.tamanioPagina - 1 := by omega
    simpa [hj'] using hlineas j hj

/-- `lectura_swamp` gets `b` back exactly when the page is served with it and the pid is not
the code of a failure. -/
theorem Guarda.lectura_iff (h : Guarda cfg pid.valor pagina.valor bytes i m s s₁)
    (hpagina : pagina.valor ≠ -1) (hno : Swamp.conseguirMarco pid.valor pagina.valor s = none)
    (basura' : Basura) :
    (∃ r s₂, Swamp.leerSwap cfg pid.valor pagina.valor basura' s₁ = .ok (r, s₂) ∧
        lecturaSwamp cfg.tamanioPagina r = some (some b, [])) ↔
      pid.valor ≠ -1 ∧ contenidoServido cfg m.archivo i basura' s₁ = b := by
  obtain ⟨s₂, hleer⟩ := h.leerSwap hpagina hno basura'
  constructor
  · rintro ⟨r, s₃, hleer', hlectura⟩
    rw [hleer] at hleer'
    cases hleer'
    have hpid : pid.valor ≠ -1 := by
      intro hpid
      rw [respuestaConPagina, hpid, List.append_assoc, List.append_assoc,
        lecturaSwamp_menosUno] at hlectura
      cases hlectura
    refine ⟨hpid, ?_⟩
    have hservida := lecturaSwamp_conPagina hpid (contenidoServido cfg m.archivo i basura' s₁)
      pagina.valor cfg.tamanioPagina
    rw [length_contenidoServido, hlectura] at hservida
    exact (Option.some.inj (Prod.mk.inj (Option.some.inj hservida)).1).symm
  · rintro ⟨hpid, rfl⟩
    refine ⟨_, s₂, hleer, ?_⟩
    have hservida := lecturaSwamp_conPagina hpid (contenidoServido cfg m.archivo i basura' s₁)
      pagina.valor cfg.tamanioPagina
    rwa [length_contenidoServido] at hservida

/-- A page comes back as it was exactly when its content survives the string, the block and
the line, and its pid is not the code of a failure. SWAmP holds no older copy of the page. -/
theorem vuelveIgual_iff (huno : cfg.archivosSwamp.length = 1) {basuraInicial : ℕ → ℤ}
    {xs : List (Peticion × Basura)} {os : List (List UInt8)}
    (hrun : run (serverProcesarMensaje cfg) xs (inicial cfg basuraInicial) = .ok (os, s))
    (hb : b.length = cfg.tamanioPagina) (hpagina : 0 ≤ pagina.valor)
    (hno : conseguirMarco pid.valor pagina.valor s = none)
    (hacepta : escribirSwap cfg pid.valor pagina.valor msg basura s = .ok (encodeInt32 0, s₁)) :
    VuelveIgual cfg pid.valor pagina.valor b s ↔
      pid.valor ≠ -1 ∧ Conservable cfg.tamanioPagina b := by
  have hl := run_limpia hrun
  have hne : pagina.valor ≠ -1 := by omega
  rw [conservable_iff cfg.pagina_pos hb]
  constructor
  · intro h
    have hviaje : ∀ ajena msg' g, mensajeDe (b ++ ajena) = some msg' → pid.valor ≠ -1 ∧
        (∀ j, j + 1 < cfg.tamanioPagina - 1 → byteGuardado msg' g j ≠ 10) ∧
          b = (List.range (cfg.tamanioPagina - 1)).map (byteGuardado msg' g) ++ [0] := by
      intro ajena msg' g hmsg'
      obtain ⟨s₂, hs₂⟩ := escribirSwap_acepta hacepta msg' ⟨g, g⟩
      obtain ⟨i, m, hg⟩ := escribirSwap_guarda hl.bien hs₂
      have hlee : ∀ basura', pid.valor ≠ -1 ∧ contenidoServido cfg m.archivo i basura' s₂ = b :=
        fun basura' => (hg.lectura_iff hne hno basura').1 (h ajena msg' ⟨g, g⟩ basura' s₂ hmsg' hs₂)
      exact ⟨(hlee basura).1, (hg.contenidoServido_iff hl huno hb).1 fun x => (hlee x).2⟩
    obtain ⟨msg', hmsg'⟩ := exists_mensajeDe b
    exact ⟨(hviaje [0] msg' (fun _ => 0) hmsg').1,
      fun ajena msg' g hmsg' => (hviaje ajena msg' g hmsg').2⟩
  · rintro ⟨hpid, hbytes⟩ ajena msg' memoria basura' s₂ hmsg' hs₂
    obtain ⟨i, m, hg⟩ := escribirSwap_guarda hl.bien hs₂
    have hservido := (hg.contenidoServido_iff hl huno hb).2
      (hbytes ajena msg' memoria.buffer hmsg')
    exact (hg.lectura_iff hne hno basura').2 ⟨hpid, hservido basura'⟩

end Viaje

section Ejemplos

def paginaLlena : List UInt8 := [65, 66, 67, 68, 69, 70, 71, 0]

def paginasDeOcho : Config :=
  { unArchivo with tamanioSwamp := 64, tamanioPagina := 8, pagina_pos := Nat.succ_pos 7 }

theorem paginaLlena_conservable : Conservable 8 paginaLlena where
  final := rfl
  lineas := fun j hj => by
    have hlt : j < 6 := by omega
    interval_cases j <;> decide
  cadena := fun j hj => by
    have hlt : j < 7 := by simp only [bytesCopiados] at hj; omega
    interval_cases j <;> decide
  resto := fun j hj hlt => by simp only [bytesCopiados] at hj; omega

/-- A full string comes back. -/
theorem vuelveIgual_llena :
    VuelveIgual paginasDeOcho 1 1 paginaLlena (inicial paginasDeOcho fun _ => 0) := by
  obtain ⟨⟨r, s₁⟩, hacepta, hr⟩ := exists_of_returns (show returns
    (escribirSwap paginasDeOcho 1 1 [65, 0] sinBasura (inicial paginasDeOcho fun _ => 0))
    (fun r => decide (r.1 = encodeInt32 0)) = true by decide +kernel)
  obtain rfl := of_decide_eq_true hr
  have hno : conseguirMarco 1 1 (inicial paginasDeOcho fun _ => 0) = none := by decide +kernel
  have hrun : run (serverProcesarMensaje paginasDeOcho) [] (inicial paginasDeOcho fun _ => 0) =
      .ok ([], inicial paginasDeOcho fun _ => 0) := rfl
  have hiff : VuelveIgual paginasDeOcho unoUno.valor unoUno.valor paginaLlena _ ↔ _ :=
    vuelveIgual_iff rfl hrun rfl (by decide) hno hacepta
  exact hiff.2 ⟨by decide, paginaLlena_conservable⟩

def dosLineas : List UInt8 := [65, 10, 66, 66, 66, 66, 66, 0]

/-- The second line does not come back. -/
theorem segunda_linea_perdida :
    ¬ ∀ (cfg : Config) (basuraInicial : ℕ → ℤ) (xs : List (Peticion × Basura))
        (os : List (List UInt8)) (s : Estado) (pid pagina : Entero) (b : List UInt8),
      cfg.archivosSwamp.length = 1 →
      run (serverProcesarMensaje cfg) xs (inicial cfg basuraInicial) = .ok (os, s) →
      b.length = cfg.tamanioPagina → 0 ≤ pagina.valor →
      conseguirMarco pid.valor pagina.valor s = none →
      VuelveIgual cfg pid.valor pagina.valor b s := by
  intro hclaim
  have h := hclaim paginasDeOcho (fun _ => 0) [] [] _ unoUno unoUno dosLineas rfl rfl rfl
    (by decide) (by decide +kernel)
  obtain ⟨⟨r, s₁⟩, hs₁, hr⟩ := exists_of_returns (show returns
    (escribirSwap paginasDeOcho 1 1 dosLineas sinBasura (inicial paginasDeOcho fun _ => 0))
    (fun r => decide (r.1 = encodeInt32 0) && returns (leerSwap paginasDeOcho 1 1 sinBasura r.2)
      fun r' => decide (lecturaSwamp 8 r'.1 ≠ some (some dosLineas, []))) = true
    by decide +kernel)
  obtain ⟨hcero, hleer⟩ := Bool.and_eq_true_iff.1 hr
  obtain ⟨⟨r', s₂⟩, hs₂, hdistinta⟩ := exists_of_returns hleer
  obtain rfl := of_decide_eq_true hcero
  obtain ⟨r'', s₃, hs₃, hvuelve⟩ := h [] dosLineas sinBasura sinBasura s₁ (by decide) hs₁
  rw [show leerSwap paginasDeOcho unoUno.valor unoUno.valor sinBasura s₁ = .ok (r', s₂) from hs₂]
    at hs₃
  cases hs₃
  exact of_decide_eq_true hdistinta hvuelve

end Ejemplos

end Carpinchos.Swamp
