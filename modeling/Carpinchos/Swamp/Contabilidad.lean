import Carpinchos.Swamp.AsignacionFija
import Carpinchos.Swamp.Almacen

/-!
# The account of the slots

Three functions keep it: `recibirPagina` registers a carpincho, also inside a request for
permission, `actualizarMarcos` fills and empties slots, and `actualizarCarpincho` counts the
slots of each carpincho. With one swap file they agree after every request. The bytes of the
slots are another matter: a write copies 64 of them, and with shorter pages they may fall on
slots in use.
-/

namespace Carpinchos.Swamp

open Outcome Runs Wire

variable {cfg : Config} {s s' : Estado} {pid pagina cambio : ℤ} {i : ℕ} {r : List UInt8}

section Definiciones

/-- The counter of every carpincho is the number of its slots. -/
def Cuadran (s : Estado) : Prop := ∀ c ∈ s.carpinchos, c.cantMarcos = ocupados c.pid s

/-- The carpinchos, their counters and the slots agree. -/
structure Contabilizado (s : Estado) : Prop where
  unicos : (s.carpinchos.map Carpincho.pid).Nodup
  cuadran : Cuadran s
  conocidos : ∀ m ∈ s.marcos, m.indice ≠ -1 → ∃ c ∈ s.carpinchos, c.pid = m.pid

/-- A write leaves the slots in use as they are: their records, and their bytes, which what is
copied does not reach. -/
structure RespetaEnUso (cfg : Config) (s s' : Estado) : Prop where
  marcos : ∀ (i : ℕ) (m : Marco), s.marcos[i]? = some m → m.indice ≠ -1 → s'.marcos[i]? = some m
  contenido : ∀ m ∈ s.marcos, m.indice ≠ -1 → ∀ x, cfg.tamanioPagina * m.marco ≤ x →
    x < cfg.tamanioPagina * (m.marco + 1) → s'.contenido m.archivo x = s.contenido m.archivo x
  copiado : ∀ pid pagina archivo d bytes,
    s'.accesos = s.accesos ++ [.escritura pid pagina archivo d bytes] →
      d + bytes.length ≤ cfg.tamanioSwamp ∧ ∀ m ∈ s.marcos, m.indice ≠ -1 → m.archivo = archivo →
        d + bytes.length ≤ cfg.tamanioPagina * m.marco ∨
          cfg.tamanioPagina * (m.marco + 1) ≤ d

end Definiciones

section Cuentas

theorem Cuadran.registrar (hc : Cuadran s) (hb : Bien cfg s) (pid : ℤ) :
    Cuadran { s with carpinchos := carpinchosCon cfg pid s } := by
  intro c hmem
  have hmem' : c ∈ carpinchosCon cfg pid s := hmem
  unfold carpinchosCon at hmem'
  split at hmem'
  · exact hc c hmem'
  · next hno =>
    rcases List.mem_append.1 hmem' with hviejo | hnuevo
    · exact hc c hviejo
    · have hdesconocido : archivoDe pid s = none := by simpa using hno
      rw [List.mem_singleton.1 hnuevo]
      exact (congrArg Nat.cast (hb.ocupados_desconocido hdesconocido)).symm

theorem Cuadran.actualizar {t : Estado} (hc : Cuadran t)
    (hcarpinchos : s'.carpinchos = (actualizarCarpincho cambio pid t).carpinchos)
    (hocupados : ∀ p, (ocupados p s' : ℤ) = ocupados p t + if p = pid then cambio else 0) :
    Cuadran s' := by
  intro c hmem
  rw [hcarpinchos] at hmem
  obtain ⟨d, hd, rfl⟩ := List.mem_map.1 hmem
  have hantes := hc d hd
  split
  · next hpid =>
    have hahora := hocupados d.pid
    rw [if_pos hpid, ← hantes] at hahora
    exact hahora.symm
  · next hpid =>
    have hahora := hocupados d.pid
    rw [if_neg hpid, ← hantes, add_zero] at hahora
    exact hahora.symm

end Cuentas

section Pedidos

variable {buffer : List UInt8} {basura : Basura}

/-- A write registers its carpincho, and is stored and counted or refused. -/
theorem escribirSwap_cuenta (hb : Bien cfg s)
    (h : escribirSwap cfg pid pagina buffer basura s = .ok (r, s')) :
    s' = { s with carpinchos := carpinchosCon cfg pid s } ∨
      ∃ i m, Guarda cfg pid pagina (bytesDesde buffer basura.buffer) i m s s' ∧
        s'.carpinchos = (actualizarCarpincho 1 pid
          { s with carpinchos := carpinchosCon cfg pid s }).carpinchos := by
  have hcambio := escribirSwap_cambio hb h
  obtain ⟨⟨archivo, t⟩, ht, h⟩ := bind_eq_ok.1 h
  obtain ⟨rfl, ha, hconserva, -⟩ := recibirPagina_escribir hb ht
  obtain rfl := recibirPagina_con hb ht
  obtain ⟨libre, hlibre, h⟩ := bind_eq_ok.1 h
  obtain ⟨j, x, rfl, -⟩ := (hayEspacioArchivo_spec (hconserva.bien hb) _).post_of_eq hlibre
  dsimp only at h
  obtain ⟨⟨asignacion, u⟩, hu, h⟩ := bind_eq_ok.1 h
  obtain rfl := chequearAsignacion_conocido ha hu
  dsimp only at h
  split at h
  · cases h
    right
    cases hcambio with
    | guarda _ hg => exact ⟨_, _, hg, rfl⟩
    | conserva hescribir _ _ _ =>
      have hno := hescribir _ _ _ rfl
      exact absurd (congrArg decodeInt32 hno) (by decide)
  · cases h
    exact Or.inl rfl

theorem puedeEscribir_cuenta {cant : ℤ} (hb : Bien cfg s)
    (h : puedeEscribir cfg pid cant s = .ok (r, s')) :
    s' = s ∨ s' = { s with carpinchos := carpinchosCon cfg pid s } := by
  obtain ⟨⟨archivo, t⟩, ht, h⟩ := bind_eq_ok.1 h
  obtain ⟨rfl, rfl⟩ := recibirPagina_puedeEscribir hb ht
  obtain ⟨⟨asignacion, u⟩, hu, h⟩ := bind_eq_ok.1 h
  have hfinal : u = t ∨ u = { t with carpinchos := carpinchosCon cfg pid t } := by
    unfold chequearAsignacion at hu
    split at hu
    · left
      split at hu
      · cases hu
        rfl
      · split at hu
        · cases hu
          rfl
        · obtain ⟨_, -, hu⟩ := bind_eq_ok.1 hu
          split at hu <;> cases hu
          rfl
    · split at hu
      · obtain ⟨⟨unArchivo, v⟩, hv, hu⟩ := bind_eq_ok.1 hu
        obtain rfl := recibirPagina_con hb hv
        obtain ⟨libre, -, hu⟩ := bind_eq_ok.1 hu
        cases libre <;> cases hu <;> exact Or.inr rfl
      · cases hu
        exact Or.inl rfl
  dsimp only at h
  split at h <;> cases h <;> exact hfinal

end Pedidos

section Corridas

variable {x : Peticion × Basura}

theorem Contabilizado.of_bien (hb : Bien cfg s) (hc : Cuadran s) : Contabilizado s where
  unicos := by
    have hpids := hb.pids
    rw [fichas, List.map_map] at hpids
    exact hpids
  cuadran := hc
  conocidos := by
    intro m hm huso
    have hconocido := hb.conocidos m hm huso
    rw [archivoDe_eq_find, Option.map_eq_some_iff] at hconocido
    obtain ⟨c, hc, -⟩ := hconocido
    exact ⟨c, List.mem_of_find?_eq_some hc, by simpa using List.find?_some hc⟩

theorem Cuadran.procesar (hc : Cuadran s) (hb : Bien cfg s) (huno : cfg.archivosSwamp.length = 1)
    (hx : Paginada x) (h : serverProcesarMensaje cfg x s = .ok (r, s')) : Cuadran s' := by
  obtain ⟨peticion, basura⟩ := x
  cases peticion with
  | leer pid pagina =>
    have hpagina : pagina ≠ -1 := by
      have hno : 0 ≤ pagina := hx
      omega
    rcases leerSwap_fija h with rfl | ⟨i, archivo, hsirve, hcarpinchos, -⟩
    · exact hc
    · obtain ⟨m, hm, -⟩ := exists_of_ranura (conseguirMarco_eq_some hpagina hsirve.encontrado)
      obtain ⟨-, -, hi⟩ := hb.unico huno hm
      obtain ⟨m, hm, huso, hpid, hset⟩ := hsirve.marcos_primero hb hpagina hi
      apply hc.actualizar hcarpinchos
      intro p
      have hliberar := ocupados_liberar hm huso hpid hset p
      split at hliberar
      · next hp =>
        rw [if_pos hp]
        omega
      · next hp =>
        rw [if_neg hp]
        omega
  | escribir pid pagina buffer =>
    have hpagina : pagina ≠ -1 := by
      have hno : 0 ≤ pagina := hx
      omega
    rcases escribirSwap_cuenta hb h with rfl | ⟨i, m, hguarda, hcarpinchos⟩
    · exact hc.registrar hb pid
    · apply (hc.registrar hb pid).actualizar hcarpinchos
      intro p
      rw [ocupados_guardar hguarda.hueco hguarda.libre hpagina hguarda.marcos p, Nat.cast_add,
        Nat.cast_ite]
      rfl
  | puedeEscribir pid cant =>
    rcases puedeEscribir_cuenta hb h with rfl | rfl
    · exact hc
    · exact hc.registrar hb pid
  | casoAsignacion caso =>
    unfold serverProcesarMensaje at h
    dsimp only at h
    split at h <;> cases h <;> exact hc

/-- A write in a free slot leaves the slots in use as they are exactly when its bytes stay off
them. -/
theorem respetaEnUso_iff {bytes : List UInt8} {m : Marco}
    (h : Guarda cfg pid pagina bytes i m s s') (hb : Bien cfg s)
    (huno : cfg.archivosSwamp.length = 1) (hbytes : bytes.length = bytesCopiados) :
    RespetaEnUso cfg s s' ↔ noPisa cfg s = true := by
  obtain ⟨harchivo, hmarco, -⟩ := hb.unico huno h.hueco
  have hocupada {j : ℕ} {x : Marco} (hx : s.marcos[j]? = some x) (huso : x.indice ≠ -1) :
      x.archivo = m.archivo ∧ x.marco = j ∧ j ≠ i ∧ ranura s j = some (x.pid, x.indice) := by
    obtain ⟨hxarchivo, hxmarco, -⟩ := hb.unico huno hx
    refine ⟨hxarchivo.trans harchivo.symm, hxmarco, ?_, ?_⟩
    · rintro rfl
      rw [h.hueco] at hx
      cases hx
      exact huso h.libre
    · rw [ranura_eq_some hx, Marco.ocupante, if_neg huso]
  rw [noPisa_iff h hb huno]
  constructor
  · intro hrespeta
    have haccesos := h.accesos
    rw [hmarco] at haccesos
    obtain ⟨hdentro, hlibres⟩ := hrespeta.copiado _ _ _ _ _ haccesos
    rw [hbytes] at hdentro hlibres
    refine ⟨hdentro, fun j k hj hij => ?_⟩
    obtain ⟨x, hx, huso, -⟩ := exists_of_ranura hj
    obtain ⟨hxarchivo, hxmarco, -⟩ := hocupada hx huso
    have hsigue := hlibres x (List.mem_of_getElem? hx) huso hxarchivo
    have hpos : cfg.tamanioPagina * i < cfg.tamanioPagina * (j + 1) :=
      Nat.mul_lt_mul_of_pos_left (by omega) cfg.pagina_pos
    rw [hxmarco] at hsigue
    omega
  · rintro ⟨hdentro, hlibres⟩
    have haparte {x : Marco} (hx : x ∈ s.marcos) (huso : x.indice ≠ -1) :
        cfg.tamanioPagina * i + bytesCopiados ≤ cfg.tamanioPagina * x.marco ∨
          cfg.tamanioPagina * (x.marco + 1) ≤ cfg.tamanioPagina * i := by
      obtain ⟨j, hx⟩ := List.mem_iff_getElem?.1 hx
      obtain ⟨-, hxmarco, hji, hj⟩ := hocupada hx huso
      rw [hxmarco]
      rcases Nat.lt_or_gt_of_ne hji with hlt | hgt
      · exact Or.inr (Nat.mul_le_mul_left _ hlt)
      · exact Or.inl (hlibres j _ hj hgt)
    refine ⟨fun j x hx huso => ?_, fun x hx huso y hdesde hhasta => ?_, ?_⟩
    · obtain ⟨-, -, hji, -⟩ := hocupada hx huso
      rw [h.marcos, List.getElem?_set_ne (Ne.symm hji)]
      exact hx
    · obtain ⟨j, hj⟩ := List.mem_iff_getElem?.1 hx
      rw [h.contenido, (hocupada hj huso).1, hmarco]
      apply contenido_guardar_otro
      rcases haparte hx huso with hantes | hdespues
      · omega
      · omega
    · intro p q archivo d bytes' haccesos
      rw [h.accesos, List.append_cancel_left_eq, List.cons.injEq,
        Acceso.escritura.injEq] at haccesos
      obtain ⟨⟨-, -, -, rfl, rfl⟩, -⟩ := haccesos
      rw [hmarco, hbytes]
      exact ⟨hdentro, fun x hx huso _ => haparte hx huso⟩

/-- A write that is answered stores its page in a free slot or nowhere. -/
theorem escribirSwap_respeta {buffer : List UInt8} {basura : Basura} (hb : Bien cfg s)
    (huno : cfg.archivosSwamp.length = 1)
    (h : escribirSwap cfg pid pagina buffer basura s = .ok (r, s')) :
    (r = encodeInt32 (-1) → RespetaEnUso cfg s s') ∧
      (r = encodeInt32 0 → (RespetaEnUso cfg s s' ↔ noPisa cfg s = true)) := by
  have hmenos : encodeInt32 0 ≠ encodeInt32 (-1) := by decide
  cases escribirSwap_cambio hb h with
  | guarda _ hguarda =>
    exact ⟨fun hno => absurd hno hmenos,
      fun _ => respetaEnUso_iff hguarda hb huno (by simp [bytesDesde])⟩
  | conserva hescribir _ _ hconserva =>
    obtain rfl := hescribir _ _ _ rfl
    refine ⟨fun _ => ⟨fun j x hx _ => ?_, fun x _ _ y _ _ => ?_, ?_⟩,
      fun hsi => absurd hsi.symm hmenos⟩
    · rw [hconserva.marcos]
      exact hx
    · rw [hconserva.contenido]
    · intro p q archivo d bytes haccesos
      rw [hconserva.accesos] at haccesos
      simp at haccesos

/-- After every run with one swap file the account is right, and a write that follows leaves
the slots in use as they are if it is refused, and if it is accepted exactly when the bytes that
it copies stay off them. -/
theorem corrida_contabilizada (huno : cfg.archivosSwamp.length = 1) (basura : ℕ → ℤ)
    {xs : List (Peticion × Basura)} {os : List (List UInt8)} (hxs : ∀ x ∈ xs, Paginada x)
    (hrun : run (serverProcesarMensaje cfg) xs (inicial cfg basura) = .ok (os, s)) :
    Contabilizado s ∧ ∀ pid pagina buffer basura r s',
      serverProcesarMensaje cfg (.escribir pid pagina buffer, basura) s = .ok (r, s') →
        (r = encodeInt32 (-1) → RespetaEnUso cfg s s') ∧
          (r = encodeInt32 0 → (RespetaEnUso cfg s s' ↔ noPisa cfg s = true)) := by
  have hpaso : ∀ x s, Paginada x → Bien cfg s ∧ Cuadran s →
      Spec (serverProcesarMensaje cfg x s) (fun r => Bien cfg r.2 ∧ Cuadran r.2) fun _ => True := by
    intro x s hx hs
    cases h : serverProcesarMensaje cfg x s with
    | error e => exact trivial
    | ok r => exact ⟨(procesar_cambio hs.1 h).bien hs.1, hs.2.procesar hs.1 huno hx h⟩
  have hinicial : Cuadran (inicial cfg basura) := fun c hc => nomatch hc
  have hfinal := (run_invariant hpaso xs _ hxs ⟨inicial_bien cfg basura, hinicial⟩).post_of_eq hrun
  refine ⟨.of_bien hfinal.1 hfinal.2, fun pid pagina buffer basura r s' h => ?_⟩
  exact escribirSwap_respeta hfinal.1 huno h

/-- A page that is written twice, read once and asked for again. -/
def paginaRepetida : List (Peticion × Basura) :=
  [(.casoAsignacion 1, sinBasura), (.puedeEscribir 2 1, sinBasura), (.escribir 1 1 [65], sinBasura),
    (.escribir 1 1 [66], sinBasura), (.leer 1 1, sinBasura), (.leer 2 1, sinBasura)]

theorem corrida_contabilizada_repetida :
    ∃ os s s', run (serverProcesarMensaje unArchivo) paginaRepetida
        (inicial unArchivo fun _ => 0) = .ok (os, s) ∧ s.carpinchos.length = 2 ∧
      Contabilizado s ∧
      serverProcesarMensaje unArchivo (.escribir 2 1 [67], sinBasura) s = .ok (encodeInt32 0, s') ∧
      RespetaEnUso unArchivo s s' := by
  obtain ⟨⟨os, s⟩, hrun, hdos⟩ := exists_of_returns (show returns
    (run (serverProcesarMensaje unArchivo) paginaRepetida (inicial unArchivo fun _ => 0))
    (fun r => decide (r.2.carpinchos.length = 2) && noPisa unArchivo r.2 &&
      returns (serverProcesarMensaje unArchivo (.escribir 2 1 [67], sinBasura) r.2)
        fun x => decide (x.1 = encodeInt32 0)) = true by decide +kernel)
  rw [Bool.and_eq_true, Bool.and_eq_true, decide_eq_true_eq] at hdos
  obtain ⟨⟨r, s'⟩, hescribir, hr⟩ := exists_of_returns hdos.2
  obtain rfl : r = encodeInt32 0 := of_decide_eq_true hr
  obtain ⟨hcuenta, hrespeta⟩ :=
    corrida_contabilizada (by decide) _ (by simp [paginaRepetida, Paginada]) hrun
  exact ⟨os, s, s', hrun, hdos.1.1, hcuenta, hescribir,
    ((hrespeta _ _ _ _ _ _ hescribir).2 rfl).2 hdos.1.2⟩

def paginasCortas : Config := { unArchivo with tamanioPagina := 8, pagina_pos := by decide }

def primeraLeida : List (Peticion × Basura) :=
  [(.escribir 1 1 [65], sinBasura), (.escribir 1 2 [66], sinBasura), (.leer 1 1, sinBasura)]

/-- A third page is stored in the first slot, and over the second page. -/
theorem escritura_sobre_ocupada :
    ¬ ∀ (cfg : Config) (basura : ℕ → ℤ) (xs : List (Peticion × Basura)) (os : List (List UInt8))
        (s s' : Estado) (pid pagina : ℤ) (buffer : List UInt8) (memoria : Basura) (r : List UInt8),
      cfg.archivosSwamp.length = 1 → (∀ x ∈ xs, Paginada x) →
      run (serverProcesarMensaje cfg) xs (inicial cfg basura) = .ok (os, s) →
      serverProcesarMensaje cfg (.escribir pid pagina buffer, memoria) s = .ok (r, s') →
      RespetaEnUso cfg s s' := by
  intro hclaim
  obtain ⟨⟨os, s⟩, hrun, hs⟩ := exists_of_returns (show returns
    (run (serverProcesarMensaje paginasCortas) primeraLeida (inicial paginasCortas fun _ => 0))
    (fun r => decide (r.2.marcos[1]? = some ⟨"swap1.bin", 1, 2, 1⟩ ∧
        r.2.contenido "swap1.bin" 8 = 66) &&
      returns (serverProcesarMensaje paginasCortas (.escribir 1 3 [67], sinBasura) r.2)
        fun x => decide (x.2.contenido "swap1.bin" 8 = 0)) = true by decide +kernel)
  rw [Bool.and_eq_true, decide_eq_true_eq] at hs
  obtain ⟨⟨hocupada, hantes⟩, hs⟩ := hs
  obtain ⟨⟨r, s'⟩, hescribir, hdespues⟩ := exists_of_returns hs
  have hrespeta := hclaim paginasCortas _ _ _ s s' _ _ _ _ _ (by decide)
    (by simp [primeraLeida, Paginada]) hrun hescribir
  have hbyte := hrespeta.contenido _ (List.mem_of_getElem? hocupada) (by decide) 8 (by decide)
    (by decide)
  rw [hantes, of_decide_eq_true hdespues] at hbyte
  exact absurd hbyte (by decide)

end Corridas

end Carpinchos.Swamp
