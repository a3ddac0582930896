import Carpinchos.Swamp.Ranuras
import Carpinchos.Swamp.Cliente

/-!
# Serving a page

Two questions about `leer_swap` in a state that requests lead to: whether it reads the place
where the page was stored and frees that slot, and whether `lectura_swamp` understands its
reply.
-/

namespace Carpinchos.Swamp

open Outcome Runs Wire Slots

variable {cfg : Config} {s s' : Estado} {i : ℕ} {basura : Basura} {r : List UInt8}

section Historia

def Acceso.guardadaEn (archivo : String) (d : ℕ) : Acceso → Option (ℤ × ℤ)
  | .escritura pid pagina a d' _ => if a = archivo ∧ d' = d then some (pid, pagina) else none
  | .lectura _ _ _ _ => none

/-- The page that `escribir_swap` last stored at a place. -/
def ultimaEscritura (archivo : String) (d : ℕ) (accesos : List Acceso) : Option (ℤ × ℤ) :=
  (accesos.filterMap (Acceso.guardadaEn archivo d)).getLast?

theorem ultimaEscritura_append (archivo : String) (d : ℕ) (accesos : List Acceso) (a : Acceso) :
    ultimaEscritura archivo d (accesos ++ [a]) =
      (a.guardadaEn archivo d).or (ultimaEscritura archivo d accesos) := by
  rw [ultimaEscritura, List.filterMap_append, ultimaEscritura]
  cases h : a.guardadaEn archivo d <;> simp [h]

structure Ubicada (cfg : Config) (s : Estado) : Prop where
  bien : Bien cfg s
  ultima : ∀ (i : ℕ) (m : Marco), s.marcos[i]? = some m → m.indice ≠ -1 →
    ultimaEscritura m.archivo (cfg.tamanioPagina * m.marco) s.accesos = some (m.pid, m.indice)

theorem inicial_ubicada (cfg : Config) (basura : ℕ → ℤ) : Ubicada cfg (inicial cfg basura) := by
  refine ⟨inicial_bien cfg basura, fun i m hm hindice => ?_⟩
  obtain ⟨j, hj, rfl⟩ := List.mem_mapIdx.1 (List.mem_of_getElem? hm)
  exact absurd rfl hindice

variable {pid pagina : ℤ} {archivo : String} {bytes : List UInt8} {m : Marco}

theorem Guarda.ubicada (h : Guarda cfg pid pagina bytes i m s s') (hu : Ubicada cfg s) :
    Ubicada cfg s' := by
  refine ⟨h.bien hu.bien, fun j x hx hindice => ?_⟩
  rw [h.accesos, ultimaEscritura_append]
  rw [h.marcos, List.getElem?_set] at hx
  split at hx
  · next hij =>
    split at hx
    · cases hx
      simp [Acceso.guardadaEn]
    · cases hx
  · next hij =>
    have hlugar : ¬ (m.archivo = x.archivo ∧
        cfg.tamanioPagina * m.marco = cfg.tamanioPagina * x.marco) := by
      rintro ⟨harchivo, hmarco⟩
      exact hij (hu.bien.lugar_inj h.hueco hx harchivo
        (Nat.eq_of_mul_eq_mul_left cfg.pagina_pos hmarco))
    rw [Acceso.guardadaEn, if_neg hlugar, Option.none_or]
    exact hu.ultima j x hx hindice

theorem Sirve.ubicada (h : Sirve cfg pid pagina i archivo s s') (hu : Ubicada cfg s) :
    Ubicada cfg s' := by
  refine ⟨h.bien hu.bien, fun j x hx hindice => ?_⟩
  rw [h.accesos, ultimaEscritura_append, Acceso.guardadaEn, Option.none_or]
  rw [h.marcos, actualizarMarcos, List.getElem?_map, Option.map_eq_some_iff] at hx
  obtain ⟨y, hy, rfl⟩ := hx
  split at hindice
  · exact absurd rfl hindice
  · next hno =>
    rw [if_neg hno]
    exact hu.ultima j y hy hindice

theorem procesar_ubicada {x : Peticion × Basura} (hu : Ubicada cfg s)
    (h : serverProcesarMensaje cfg x s = .ok (r, s')) : Ubicada cfg s' := by
  cases procesar_cambio hu.bien h with
  | guarda _ hg => exact hg.ubicada hu
  | sirve _ hs => exact hs.ubicada hu
  | conserva _ _ _ hc =>
    refine ⟨hc.bien hu.bien, ?_⟩
    rw [hc.marcos, hc.accesos]
    exact hu.ultima

theorem run_ubicada {basura : ℕ → ℤ} {xs : List (Peticion × Basura)} {os : List (List UInt8)}
    (h : run (serverProcesarMensaje cfg) xs (inicial cfg basura) = .ok (os, s)) :
    Ubicada cfg s := by
  have hpaso : ∀ x s, True → Ubicada cfg s →
      Spec (serverProcesarMensaje cfg x s) (fun r => Ubicada cfg r.2) (fun _ => True) :=
    fun x s _ hu => spec_of_ok fun r hr => procesar_ubicada hu hr
  exact (run_invariant hpaso xs _ (fun _ _ => trivial) (inicial_ubicada cfg basura)).post_of_eq h

end Historia

section Lugar

variable {pid pagina : ℤ} {archivo : String}

/-- A page is read from the file and the offset at which it was stored, and the slot of that
place is the one that becomes free. -/
def LeeLoGuardado (cfg : Config) (pid pagina : ℤ) (s s' : Estado) : Prop :=
  ∃ archivo d j m, s'.accesos = s.accesos ++ [.lectura pid pagina archivo d] ∧
    ultimaEscritura archivo d s.accesos = some (pid, pagina) ∧
    s.marcos[j]? = some m ∧ m.archivo = archivo ∧ cfg.tamanioPagina * m.marco = d ∧
    ranura s j = some (pid, pagina) ∧ ranura s' = Function.update (ranura s) j none

/-- A request to read never stops the server. -/
theorem exists_leerSwap (cfg : Config) (pid pagina : ℤ) (basura : Basura) (s : Estado) :
    ∃ r s', leerSwap cfg pid pagina basura s = .ok (r, s') := by
  rw [leerSwap, recibirPagina_leer, ok_bind]
  cases archivoDe pid s with
  | none => exact ⟨_, _, rfl⟩
  | some archivo =>
    cases hi : conseguirMarco pid pagina s with
    | none => exact ⟨_, _, by simp only [hi]; rfl⟩
    | some i => exact ⟨_, _, by simp only [hi]; rfl⟩

theorem leerSwap_sirve (hb : Bien cfg s) (hpagina : pagina ≠ -1)
    (hi : conseguirMarco pid pagina s = some i)
    (h : leerSwap cfg pid pagina basura s = .ok (r, s')) :
    ∃ archivo, Sirve cfg pid pagina i archivo s s' := by
  cases leerSwap_cambio h with
  | sirve _ h =>
    have hj := h.encontrado
    rw [hi] at hj
    cases hj
    exact ⟨_, h⟩
  | conserva _ hno _ _ =>
    rcases hno pid pagina rfl with hno | hno
    · obtain ⟨archivo, harchivo⟩ := hb.conocido (conseguirMarco_eq_some hpagina hi)
      rw [hno] at harchivo
      cases harchivo
    · rw [hi] at hno
      cases hno

theorem Sirve.leeLoGuardado_iff (h : Sirve cfg pid pagina i archivo s s') (hu : Ubicada cfg s)
    (hpagina : pagina ≠ -1) : LeeLoGuardado cfg pid pagina s s' ↔ i < cfg.cantMarcos := by
  constructor
  · rintro ⟨a, d, j, m, haccesos, -, hm, -, hd, -⟩
    rw [h.accesos, List.append_cancel_left_eq, List.cons.injEq, Acceso.lectura.injEq] at haccesos
    obtain ⟨⟨-, -, -, rfl⟩, -⟩ := haccesos
    rw [Nat.mul_comm i] at hd
    rw [← Nat.eq_of_mul_eq_mul_left cfg.pagina_pos hd]
    exact hu.bien.marco_lt hm
  · intro hi
    have hranura := conseguirMarco_eq_some hpagina h.encontrado
    obtain ⟨m, hm, hindice, hk⟩ := exists_of_ranura hranura
    have harchivo : m.archivo = archivo := by
      have hconocido := hu.bien.conocidos m (List.mem_of_getElem? hm) hindice
      rw [(Prod.mk.inj hk).1, h.conocido] at hconocido
      exact (Option.some.inj hconocido).symm
    have hd : cfg.tamanioPagina * m.marco = i * cfg.tamanioPagina := by
      rw [(hu.bien.marco_eq_iff hm).2 hi, Nat.mul_comm]
    refine ⟨archivo, i * cfg.tamanioPagina, i, m, h.accesos, ?_, hm, harchivo, hd, hranura,
      h.ranura_primero hu.bien hpagina hi⟩
    rw [← hd, ← harchivo, hu.ultima i m hm hindice, hk]

/-- A page that SWAmP serves is read where it was stored, and its slot is freed, exactly when
the slot lies in the first file. -/
theorem leer_lugar_iff {basuraInicial : ℕ → ℤ} {xs : List (Peticion × Basura)}
    {os : List (List UInt8)}
    (hrun : run (serverProcesarMensaje cfg) xs (inicial cfg basuraInicial) = .ok (os, s))
    (hpagina : pagina ≠ -1) (hi : conseguirMarco pid pagina s = some i)
    (hleer : leerSwap cfg pid pagina basura s = .ok (r, s')) :
    LeeLoGuardado cfg pid pagina s s' ↔ i < cfg.cantMarcos := by
  have hu := run_ubicada hrun
  obtain ⟨archivo, h⟩ := leerSwap_sirve hu.bien hpagina hi hleer
  exact h.leeLoGuardado_iff hu hpagina

end Lugar

section Respuesta

variable {pid pagina : Entero} {tamanio : ℕ} {o : Option (List UInt8)} {flujo : List UInt8}

theorem recibirInt_eq_some {x : ℤ} {resto : List UInt8}
    (h : recibirInt flujo = some (x, resto)) : flujo.length = 4 + resto.length := by
  obtain ⟨⟨bytes, resto'⟩, htake, h⟩ := Option.bind_eq_some_iff.1 h
  cases h
  obtain ⟨rfl, hlargo⟩ := takeExact_eq_some htake
  rw [List.length_append, hlargo]

/-- A reply that `lectura_swamp` reads to its end has four bytes if it is a failure, and
three integers and a page otherwise. -/
theorem length_of_lecturaSwamp (h : lecturaSwamp tamanio flujo = some (o, [])) :
    flujo.length = if o.isSome then 12 + tamanio else 4 := by
  obtain ⟨⟨pid, f₁⟩, h₁, h⟩ := Option.bind_eq_some_iff.1 h
  have hl₁ := recibirInt_eq_some h₁
  dsimp only at h
  split at h
  · cases h
    simpa using hl₁
  · obtain ⟨⟨x, f₂⟩, h₂, h⟩ := Option.bind_eq_some_iff.1 h
    obtain ⟨⟨y, f₃⟩, h₃, h⟩ := Option.bind_eq_some_iff.1 h
    obtain ⟨⟨contenido, f₄⟩, h₄, h⟩ := Option.bind_eq_some_iff.1 h
    cases h
    have hl₂ := recibirInt_eq_some h₂
    have hl₃ := recibirInt_eq_some h₃
    obtain ⟨rfl, hlargo⟩ := takeExact_eq_some h₄
    simp only [List.append_nil] at hl₃
    simp only [Option.isSome_some, if_true]
    omega

def respuestaConPagina (pid pagina : ℤ) (tamanio : ℕ) (contenido : List UInt8) : List UInt8 :=
  encodeInt32 pid ++ encodeInt32 pagina ++ encodeInt32 tamanio ++ contenido

theorem lecturaSwamp_conPagina (hpid : pid.valor ≠ -1) (contenido : List UInt8) (p : ℤ) (n : ℕ) :
    lecturaSwamp contenido.length (respuestaConPagina pid.valor p n contenido) =
      some (some contenido, []) := by
  have htodo : takeExact contenido.length contenido = some (contenido, []) := by
    have htake : takeExact contenido.length (contenido ++ []) = some (contenido, []) :=
      takeExact_append rfl
    rwa [List.append_nil] at htake
  have hsigue : ∀ resto, recibirInt (encodeInt32 p ++ resto) =
      some (decodeInt32 (encodeInt32 p), resto) := recibirInt_append (length_encodeInt32 p)
  have hsigue' : ∀ resto, recibirInt (encodeInt32 n ++ resto) =
      some (decodeInt32 (encodeInt32 n), resto) := recibirInt_append (length_encodeInt32 n)
  simp only [lecturaSwamp, respuestaConPagina, List.append_assoc, recibirInt_entero,
    Option.bind_eq_bind, Option.bind_some, if_neg hpid, hsigue, hsigue', htodo]

theorem lecturaSwamp_menosUno (tamanio : ℕ) (resto : List UInt8) :
    lecturaSwamp tamanio (encodeInt32 (-1) ++ resto) = some (none, resto) := by
  simp only [lecturaSwamp, recibirInt_append (length_encodeInt32 _), Option.bind_eq_bind,
    Option.bind_some, decodeInt32_encodeInt32 (x := -1) (by decide) (by decide), if_true]

theorem length_pisar (nuevo viejo : List UInt8) :
    (pisar nuevo viejo).length = max nuevo.length viejo.length := by
  simp only [pisar, List.length_append, List.length_drop]
  omega

theorem length_hastaNuevaLinea_le (bytes : List UInt8) :
    (hastaNuevaLinea bytes).length ≤ bytes.length := by
  induction bytes with
  | nil => exact le_rfl
  | cons c cs ih =>
    unfold hastaNuevaLinea
    split
    · simp
    · simpa using ih

theorem length_fgets {n : ℕ} (hn : 0 < n) (resto : List UInt8) {buffer : List UInt8}
    (hbuffer : buffer.length = n) : (fgets n resto buffer).length = n := by
  have hlinea := length_hastaNuevaLinea_le (resto.take (n - 1))
  rw [List.length_take] at hlinea
  simp only [fgets]
  split
  · exact hbuffer
  · rw [length_pisar, hbuffer, List.length_append, List.length_singleton]
    omega

def contenidoServido (cfg : Config) (archivo : String) (i : ℕ) (basura : Basura) (s : Estado) :
    List UInt8 :=
  fgets cfg.tamanioPagina ((bytesDe cfg archivo s).drop (i * cfg.tamanioPagina))
    ((List.range cfg.tamanioPagina).map basura.contenido)

theorem length_contenidoServido (cfg : Config) (archivo : String) (i : ℕ) (basura : Basura)
    (s : Estado) : (contenidoServido cfg archivo i basura s).length = cfg.tamanioPagina :=
  length_fgets cfg.pagina_pos _ (by simp)

/-- The reply is that of the page, or missing, or as long as that of a page. -/
theorem leerSwap_respuesta {pid pagina : ℤ} (h : leerSwap cfg pid pagina basura s = .ok (r, s')) :
    (∃ archivo i, archivoDe pid s = some archivo ∧ conseguirMarco pid pagina s = some i ∧
      r = respuestaConPagina pid pagina cfg.tamanioPagina
        (contenidoServido cfg archivo i basura s)) ∨
    (archivoDe pid s = none ∨ conseguirMarco pid pagina s = none) ∧
      (r.length = 0 ∨ r.length = 12 + cfg.tamanioPagina) := by
  rw [leerSwap, recibirPagina_leer, ok_bind] at h
  cases ha : archivoDe pid s with
  | none =>
    simp only [ha] at h
    cases h
    refine Or.inr ⟨Or.inl rfl, Or.inr ?_⟩
    simp only [length_pisar, length_encodeInt32, List.length_map, List.length_range]
    omega
  | some archivo =>
    cases hi : conseguirMarco pid pagina s with
    | none =>
      simp only [ha, hi] at h
      cases h
      exact Or.inr ⟨Or.inr rfl, Or.inl rfl⟩
    | some i =>
      simp only [ha, hi] at h
      cases h
      exact Or.inl ⟨archivo, i, rfl, rfl, rfl⟩

theorem leerSwap_conPagina {pid pagina : ℤ} (hb : Bien cfg s)
    (h : leerSwap cfg pid pagina basura s = .ok (r, s'))
    (hholds : Holds (ranura s) (pid, pagina)) :
    ∃ contenido, contenido.length = cfg.tamanioPagina ∧
      r = respuestaConPagina pid pagina cfg.tamanioPagina contenido := by
  obtain ⟨j, hj⟩ := hholds
  rcases leerSwap_respuesta h with ⟨archivo, i, -, -, rfl⟩ | ⟨hno | hno, -⟩
  · exact ⟨_, length_contenidoServido _ _ _ _ _, rfl⟩
  · obtain ⟨archivo, harchivo⟩ := hb.conocido hj
    rw [hno] at harchivo
    cases harchivo
  · obtain ⟨m, hm, hindice, hk⟩ := exists_of_ranura hj
    have hpagina : pagina ≠ -1 := (Prod.mk.inj hk).2 ▸ hindice
    exact absurd ⟨j, hj⟩ ((conseguirMarco_eq_none hpagina).1 hno)

/-- One reply, as long as `lectura_swamp` reads, and taken for a failure exactly when no slot
holds the page. -/
def RespuestaCorrecta (tamanio : ℕ) (pid pagina : ℤ) (s : Estado) (r : List UInt8) : Prop :=
  r ≠ [] ∧ ∃ o, lecturaSwamp tamanio r = some (o, []) ∧
    (o = none ↔ ¬ Holds (ranura s) (pid, pagina))

theorem RespuestaCorrecta.holds {pid pagina : ℤ}
    (hleer : leerSwap cfg pid pagina basura s = .ok (r, s'))
    (h : RespuestaCorrecta tamanio pid pagina s r) :
    Holds (ranura s) (pid, pagina) := by
  obtain ⟨hno, o, ho, hfalla⟩ := h
  by_contra hvacia
  obtain rfl := hfalla.2 hvacia
  have hlargo := length_of_lecturaSwamp ho
  simp only [Option.isSome_none, Bool.false_eq_true, if_false] at hlargo
  rcases leerSwap_respuesta hleer with ⟨archivo, i, -, -, rfl⟩ | ⟨-, hr⟩
  · have hpos := cfg.pagina_pos
    simp only [respuestaConPagina, List.length_append, length_encodeInt32,
      length_contenidoServido] at hlargo
    omega
  · have hpos := cfg.pagina_pos
    omega

/-- The reply is right exactly when a slot holds the page, its pid is not the code of a
failure, and both programs agree on the size of a page. -/
theorem respuesta_iff {basuraInicial : ℕ → ℤ} {xs : List (Peticion × Basura)}
    {os : List (List UInt8)}
    (hrun : run (serverProcesarMensaje cfg) xs (inicial cfg basuraInicial) = .ok (os, s))
    (hleer : leerSwap cfg pid.valor pagina.valor basura s = .ok (r, s')) :
    RespuestaCorrecta tamanio pid.valor pagina.valor s r ↔
      Holds (ranura s) (pid.valor, pagina.valor) ∧ pid.valor ≠ -1 ∧
        tamanio = cfg.tamanioPagina := by
  have hb := (run_ubicada hrun).bien
  constructor
  · intro h
    have hholds := h.holds hleer
    obtain ⟨-, o, ho, hfalla⟩ := h
    obtain ⟨contenido, hcontenido, rfl⟩ := leerSwap_conPagina hb hleer hholds
    have hlargo := length_of_lecturaSwamp ho
    simp only [respuestaConPagina, List.length_append, length_encodeInt32] at hlargo
    cases o with
    | none => exact absurd hholds (hfalla.1 rfl)
    | some leido =>
      refine ⟨hholds, fun hpid => ?_, by simp at hlargo; omega⟩
      rw [respuestaConPagina, hpid, List.append_assoc, List.append_assoc,
        lecturaSwamp_menosUno] at ho
      cases ho
  · rintro ⟨hholds, hpid, rfl⟩
    obtain ⟨contenido, hcontenido, rfl⟩ := leerSwap_conPagina hb hleer hholds
    refine ⟨fun hvacia => ?_, some contenido, ?_, by simp [hholds]⟩
    · have hlargo := congrArg List.length hvacia
      simp [respuestaConPagina] at hlargo
    · rw [← hcontenido]
      exact lecturaSwamp_conPagina hpid contenido _ _

end Respuesta

section Ejemplos

/-- Two files with one slot each. -/
def dosArchivos : Config :=
  { unArchivo with
    archivosSwamp := ["swap1.bin", "swap2.bin"]
    tamanioSwamp := 64
    archivos_ne := List.cons_ne_nil _ _
    archivos_nodup := by simp }

def basuraCero : Basura := ⟨fun _ => 0, fun _ => 0⟩

/-- A page of each of two carpinchos, which take different files. -/
def dosPaginas : List (Peticion × Basura) :=
  [(.casoAsignacion 1, basuraCero), (.escribir 1 1 [65, 0], basuraCero),
    (.escribir 2 1 [66, 0], basuraCero)]

/-- The page of the first carpincho is read where it was stored. -/
theorem leer_lugar_primero :
    ∃ os s r s', run (serverProcesarMensaje dosArchivos) dosPaginas
        (inicial dosArchivos fun _ => 0) = .ok (os, s) ∧
      leerSwap dosArchivos 1 1 basuraCero s = .ok (r, s') ∧
      LeeLoGuardado dosArchivos 1 1 s s' := by
  obtain ⟨⟨os, s⟩, hrun, hi⟩ := exists_of_returns (show returns
    (run (serverProcesarMensaje dosArchivos) dosPaginas (inicial dosArchivos fun _ => 0))
    (fun r => decide (conseguirMarco 1 1 r.2 = some 0)) = true by decide +kernel)
  obtain ⟨r, s', hleer⟩ := exists_leerSwap dosArchivos 1 1 basuraCero s
  exact ⟨os, s, r, s', hrun, hleer,
    (leer_lugar_iff hrun (by decide) (of_decide_eq_true hi) hleer).2 (by decide)⟩

/-- The page of the second carpincho is not: the read goes to the end of its file. -/
theorem lugar_ajeno :
    ¬ ∀ (cfg : Config) (basuraInicial : ℕ → ℤ) (xs : List (Peticion × Basura))
        (os : List (List UInt8)) (s s' : Estado) (pid pagina : ℤ) (basura : Basura)
        (r : List UInt8),
      run (serverProcesarMensaje cfg) xs (inicial cfg basuraInicial) = .ok (os, s) →
      pagina ≠ -1 → (conseguirMarco pid pagina s).isSome →
      leerSwap cfg pid pagina basura s = .ok (r, s') → LeeLoGuardado cfg pid pagina s s' := by
  intro hclaim
  obtain ⟨⟨os, s⟩, hrun, hi⟩ := exists_of_returns (show returns
    (run (serverProcesarMensaje dosArchivos) dosPaginas (inicial dosArchivos fun _ => 0))
    (fun r => decide (conseguirMarco 2 1 r.2 = some 1)) = true by decide +kernel)
  have hi := of_decide_eq_true hi
  obtain ⟨r, s', hleer⟩ := exists_leerSwap dosArchivos 2 1 basuraCero s
  have hu := run_ubicada hrun
  obtain ⟨archivo, h⟩ := leerSwap_sirve hu.bien (by decide) hi hleer
  have hlee := hclaim _ _ _ _ _ _ _ _ _ _ hrun (by decide) (by rw [hi]; rfl) hleer
  have hlt := (h.leeLoGuardado_iff hu (by decide)).1 hlee
  exact absurd hlt (by decide)

def unoUno : Entero := ⟨1, by decide, by decide⟩

/-- The reply with the page of the first carpincho. -/
theorem respuesta_conPagina :
    ∃ os s r s', run (serverProcesarMensaje dosArchivos) dosPaginas
        (inicial dosArchivos fun _ => 0) = .ok (os, s) ∧
      leerSwap dosArchivos 1 1 basuraCero s = .ok (r, s') ∧ RespuestaCorrecta 64 1 1 s r := by
  obtain ⟨⟨os, s⟩, hrun, hi⟩ := exists_of_returns (show returns
    (run (serverProcesarMensaje dosArchivos) dosPaginas (inicial dosArchivos fun _ => 0))
    (fun r => decide (ranura r.2 0 = some (1, 1))) = true by decide +kernel)
  obtain ⟨r, s', hleer⟩ := exists_leerSwap dosArchivos 1 1 basuraCero s
  have hcorrecta : RespuestaCorrecta 64 unoUno.valor unoUno.valor s r :=
    (respuesta_iff hrun hleer).2 ⟨⟨0, of_decide_eq_true hi⟩, by decide, rfl⟩
  exact ⟨os, s, r, s', hrun, hleer, hcorrecta⟩

/-- A page that a known carpincho never stored gets no reply. -/
theorem respuesta_faltante :
    ¬ ∀ (cfg : Config) (basuraInicial : ℕ → ℤ) (xs : List (Peticion × Basura))
        (os : List (List UInt8)) (s s' : Estado) (pid pagina : ℤ) (basura : Basura)
        (r : List UInt8),
      run (serverProcesarMensaje cfg) xs (inicial cfg basuraInicial) = .ok (os, s) →
      leerSwap cfg pid pagina basura s = .ok (r, s') →
      RespuestaCorrecta cfg.tamanioPagina pid pagina s r := by
  intro hclaim
  obtain ⟨⟨os, s⟩, hrun, hleer⟩ := exists_of_returns (show returns
    (run (serverProcesarMensaje dosArchivos) dosPaginas (inicial dosArchivos fun _ => 0))
    (fun r => returns (leerSwap dosArchivos 1 2 basuraCero r.2) fun r' => r'.1 = []) = true
    by decide +kernel)
  obtain ⟨⟨r, s'⟩, hleer, hvacia⟩ := exists_of_returns hleer
  exact (hclaim _ _ _ _ _ _ _ _ _ _ hrun hleer).1 (of_decide_eq_true hvacia)

end Ejemplos

end Carpinchos.Swamp
