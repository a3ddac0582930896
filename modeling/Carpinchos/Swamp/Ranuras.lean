import Carpinchos.Swamp.Servidor
import Carpinchos.Library.Slots

/-!
# What a request does to SWAmP

Every slot keeps its file and its number, every page in use belongs to a known carpincho
and lies in the file of that carpincho. Each request that is answered stores a page in a
free slot, serves a page, or leaves the slots as they are.
-/

namespace Carpinchos.Swamp

open Outcome Wire Slots

variable {cfg : Config} {s s' t : Estado} {pid pagina : ℤ} {archivo : String} {i m : ℕ}

section Definiciones

def Marco.ocupante (m : Marco) : Option (ℤ × ℤ) :=
  if m.indice = -1 then none else some (m.pid, m.indice)

def ranura (s : Estado) (i : ℕ) : Option (ℤ × ℤ) := s.marcos[i]?.bind Marco.ocupante

def Carpincho.ficha (c : Carpincho) : ℤ × String := (c.pid, c.archivo)

/-- The carpinchos with their files, in the order in which they became known. -/
def fichas (s : Estado) : List (ℤ × String) := s.carpinchos.map Carpincho.ficha

def archivoDe (pid : ℤ) (s : Estado) : Option String :=
  ((fichas s).find? fun x => x.1 = pid).map Prod.snd

structure Bien (cfg : Config) (s : Estado) : Prop where
  lugares : s.marcos.map (fun m => (m.archivo, m.marco)) = cfg.lugares
  conocidos : ∀ m ∈ s.marcos, m.indice ≠ -1 → archivoDe m.pid s = some m.archivo
  pids : ((fichas s).map Prod.fst).Nodup

/-- `s'` differs from `s` at most in a carpincho that has become known and in the number of
pages of each carpincho. -/
inductive Registra (s s' : Estado) : Prop
  | igual (h : fichas s' = fichas s)
  | nuevo (pid : ℤ) (archivo : String) (hpid : archivoDe pid s = none)
    (h : fichas s' = fichas s ++ [(pid, archivo)])

structure Conserva (s s' : Estado) : Prop where
  registra : Registra s s'
  marcos : s'.marcos = s.marcos
  contenido : s'.contenido = s.contenido
  accesos : s'.accesos = s.accesos

/-- `s'` results from `s` when a page is stored in the free slot `i`, which is `m`. -/
structure Guarda (cfg : Config) (pid pagina : ℤ) (bytes : List UInt8) (i : ℕ) (m : Marco)
    (s s' : Estado) : Prop where
  registra : Registra s s'
  hueco : s.marcos[i]? = some m
  libre : m.indice = -1
  elegido : hayEspacioArchivo cfg (some m.archivo) s = .ok (some m.marco)
  conocido : archivoDe pid s' = some m.archivo
  marcos : s'.marcos = s.marcos.set i { m with indice := pagina, pid := pid }
  contenido : s'.contenido =
    (guardar m.archivo (cfg.tamanioPagina * m.marco) bytes s).contenido
  accesos : s'.accesos = s.accesos ++
    [.escritura pid pagina m.archivo (cfg.tamanioPagina * m.marco) bytes]

/-- `s'` results from `s` when the page found at position `i` is served. -/
structure Sirve (cfg : Config) (pid pagina : ℤ) (i : ℕ) (archivo : String) (s s' : Estado) :
    Prop where
  registra : fichas s' = fichas s
  encontrado : conseguirMarco pid pagina s = some i
  conocido : archivoDe pid s = some archivo
  marcos : s'.marcos = (actualizarMarcos archivo i (-1) pid s).marcos
  contenido : s'.contenido = s.contenido
  accesos : s'.accesos = s.accesos ++ [.lectura pid pagina archivo (i * cfg.tamanioPagina)]

/-- What a request that is answered does. -/
inductive Cambio (cfg : Config) (s s' : Estado) : Peticion × Basura → List UInt8 → Prop
  | guarda {pid pagina : ℤ} {buffer : List UInt8} {basura : Basura} {i : ℕ} {m : Marco}
    (hcaso : s'.casoAsignacion = s.casoAsignacion)
    (h : Guarda cfg pid pagina (bytesDesde buffer basura.buffer) i m s s') :
    Cambio cfg s s' (.escribir pid pagina buffer, basura) (encodeInt32 0)
  | sirve {pid pagina : ℤ} {basura : Basura} {i : ℕ} {archivo : String} {r : List UInt8}
    (hcaso : s'.casoAsignacion = s.casoAsignacion)
    (h : Sirve cfg pid pagina i archivo s s') : Cambio cfg s s' (.leer pid pagina, basura) r
  | conserva {x : Peticion × Basura} {r : List UInt8}
    (hescribir : ∀ pid pagina buffer, x.1 = .escribir pid pagina buffer → r = encodeInt32 (-1))
    (hleer : ∀ pid pagina, x.1 = .leer pid pagina →
      archivoDe pid s = none ∨ conseguirMarco pid pagina s = none)
    (hcaso : s'.casoAsignacion = s.casoAsignacion ∨ ∃ caso, x.1 = .casoAsignacion caso)
    (h : Conserva s s') : Cambio cfg s s' x r

end Definiciones

section Lugares

theorem lugares_nodup (cfg : Config) : cfg.lugares.Nodup := by
  refine List.nodup_flatMap.2 ⟨fun archivo _ => ?_, ?_⟩
  · exact List.nodup_range.map fun i j h => (Prod.mk.inj h).2
  · refine cfg.archivos_nodup.imp fun {a b} hab => ?_
    rintro ⟨c, i⟩ ha hb
    obtain ⟨j, -, hj⟩ := List.mem_map.1 ha
    obtain ⟨k, -, hk⟩ := List.mem_map.1 hb
    exact hab ((Prod.mk.inj hj).1.trans (Prod.mk.inj hk).1.symm)

theorem lt_of_mem_lugares (h : (archivo, m) ∈ cfg.lugares) : m < cfg.cantMarcos := by
  obtain ⟨a, -, h⟩ := List.mem_flatMap.1 h
  obtain ⟨j, hj, h⟩ := List.mem_map.1 h
  cases h
  exact List.mem_range.1 hj

theorem length_lugares (cfg : Config) :
    cfg.lugares.length = cfg.cantMarcos * cfg.cantArchivos := by
  simp [Config.lugares, Config.cantArchivos, List.length_flatMap, Nat.mul_comm]

theorem lugares_primero (hi : i < cfg.cantMarcos) :
    cfg.lugares[i]? = some (cfg.archivosSwamp.head cfg.archivos_ne, i) := by
  obtain ⟨a, as, has⟩ := List.exists_cons_of_ne_nil cfg.archivos_ne
  simp only [Config.lugares, has, List.head_cons, List.flatMap_cons]
  rw [List.getElem?_append_left (by simpa using hi)]
  simp [hi]

variable (hb : Bien cfg s)
include hb

theorem Bien.lugar {x : Marco} (hx : s.marcos[i]? = some x) :
    cfg.lugares[i]? = some (x.archivo, x.marco) := by
  rw [← hb.lugares, List.getElem?_map, hx]
  rfl

theorem Bien.lugar_inj {j : ℕ} {x y : Marco} (hx : s.marcos[i]? = some x)
    (hy : s.marcos[j]? = some y) (ha : x.archivo = y.archivo) (hm : x.marco = y.marco) :
    i = j := by
  have hi := hb.lugar hx
  have hj := hb.lugar hy
  rw [← ha, ← hm] at hj
  have hlt := (List.getElem?_eq_some_iff.1 hi).1
  exact (List.getElem?_inj hlt (lugares_nodup cfg)).1 (hi.trans hj.symm)

theorem Bien.length_marcos : s.marcos.length = cfg.cantMarcos * cfg.cantArchivos := by
  rw [← length_lugares, ← hb.lugares, List.length_map]

theorem Bien.marco_lt {x : Marco} (hx : s.marcos[i]? = some x) : x.marco < cfg.cantMarcos :=
  lt_of_mem_lugares (List.mem_of_getElem? (hb.lugar hx))

theorem Bien.marco_eq_iff {x : Marco} (hx : s.marcos[i]? = some x) :
    x.marco = i ↔ i < cfg.cantMarcos := by
  constructor
  · rintro rfl
    exact hb.marco_lt hx
  · intro hi
    exact (Prod.mk.inj (Option.some.inj ((hb.lugar hx).symm.trans (lugares_primero hi)))).2

end Lugares

section Carpinchos

variable {p : ℤ} {a : String}

theorem archivoDe_congr (h : fichas s' = fichas s) (p : ℤ) : archivoDe p s' = archivoDe p s := by
  rw [archivoDe, h, archivoDe]

theorem archivoDe_eq_none : archivoDe p s = none ↔ p ∉ (fichas s).map Prod.fst := by
  simp only [archivoDe, Option.map_eq_none_iff, List.find?_eq_none, decide_eq_true_eq,
    List.mem_map, not_exists, not_and]

theorem archivoDe_nuevo (h : fichas s' = fichas s ++ [(pid, archivo)]) :
    archivoDe p s' = (archivoDe p s).or (if pid = p then some archivo else none) := by
  rw [archivoDe, h, List.find?_append, archivoDe]
  cases (fichas s).find? fun x => x.1 = p with
  | some x => rfl
  | none =>
    by_cases hp : pid = p <;> simp [hp]

theorem archivoDe_eq_find (p : ℤ) (s : Estado) :
    archivoDe p s = (s.carpinchos.find? fun c => c.pid = p).map Carpincho.archivo := by
  rw [archivoDe, fichas, List.find?_map, Option.map_map]
  rfl

theorem Registra.archivoDe (h : Registra s s') (hp : archivoDe p s = some a) :
    archivoDe p s' = some a := by
  cases h with
  | igual h => rw [archivoDe_congr h, hp]
  | nuevo pid archivo _ h => rw [archivoDe_nuevo h, hp, Option.some_or]

theorem Registra.pids (h : Registra s s') (hs : ((fichas s).map Prod.fst).Nodup) :
    ((fichas s').map Prod.fst).Nodup := by
  cases h with
  | igual h => rwa [h]
  | nuevo pid archivo hpid h =>
    rw [h, List.map_append]
    refine List.nodup_append.2 ⟨hs, List.nodup_singleton _, fun x hx y hy hxy => ?_⟩
    obtain rfl : y = pid := List.mem_singleton.1 hy
    exact archivoDe_eq_none.1 hpid (hxy ▸ hx)

theorem Conserva.refl (s : Estado) : Conserva s s := ⟨.igual rfl, rfl, rfl, rfl⟩

theorem fichas_actualizarCarpincho (cambio pid : ℤ) (s : Estado) :
    fichas (actualizarCarpincho cambio pid s) = fichas s := by
  rw [fichas, actualizarCarpincho, List.map_map]
  refine List.map_congr_left fun c _ => ?_
  simp only [Function.comp_apply]
  split <;> rfl

end Carpinchos

section Funciones

variable {p : ℤ} {a : String} {r : Option String}

theorem buscarLibre_spec {pasos : ℕ} {l : List Marco} (h : l.length < pasos) :
    Spec (buscarLibre archivo pasos l)
      (fun r => ∃ (i : ℕ) (x : Marco), r = some x.marco ∧ l[i]? = some x ∧
        x.archivo = archivo ∧ x.indice = -1)
      (fun _ => (l.countP fun m => m.archivo = archivo ∧ m.indice = -1) = 0) := by
  induction l generalizing pasos with
  | nil =>
    cases pasos with
    | zero => simp at h
    | succ pasos => simp [buscarLibre]
  | cons x l ih =>
    cases pasos with
    | zero => simp at h
    | succ pasos =>
      rw [buscarLibre]
      split
      · next hx => exact ⟨0, x, rfl, rfl, hx⟩
      · next hx =>
        have hlargo : l.length < pasos := by simpa using h
        refine (ih hlargo).mono ?_ ?_
        · rintro r ⟨i, y, hr, hy, hlibre⟩
          exact ⟨i + 1, y, hr, hy, hlibre⟩
        · intro e he
          rw [List.countP_cons_of_neg (by simpa using hx), he]

theorem hayEspacioArchivo_spec (hb : Bien cfg s) (archivo : String) :
    Spec (hayEspacioArchivo cfg (some archivo) s)
      (fun r => ∃ (i : ℕ) (x : Marco), r = some x.marco ∧ s.marcos[i]? = some x ∧
        x.archivo = archivo ∧ x.indice = -1)
      (fun _ => marcosLibres archivo s = 0) :=
  buscarLibre_spec (by rw [hb.length_marcos]; omega)

theorem recibirPagina_conocido (h : archivoDe pid s = some a) (operacion : CodOp) :
    recibirPagina cfg pid operacion s = .ok (some a, s) := by
  rw [archivoDe_eq_find, Option.map_eq_some_iff] at h
  obtain ⟨c, hc, rfl⟩ := h
  simp only [recibirPagina, hc]

theorem recibirPagina_leer (pid : ℤ) (s : Estado) :
    recibirPagina cfg pid .leer s = .ok (archivoDe pid s, s) := by
  cases h : archivoDe pid s with
  | some a => exact recibirPagina_conocido h _
  | none =>
    rw [archivoDe_eq_find, Option.map_eq_none_iff] at h
    simp only [recibirPagina, h]

def archivoPedido (cfg : Config) (pid : ℤ) (s : Estado) : String :=
  (archivoDe pid s).getD (archivoConMasEspacio cfg s)

theorem recibirPagina_escribir (hb : Bien cfg s)
    (h : recibirPagina cfg pid .escribir s = .ok (r, s')) :
    r = some (archivoPedido cfg pid s) ∧ archivoDe pid s' = some (archivoPedido cfg pid s) ∧
      Conserva s s' ∧ s'.casoAsignacion = s.casoAsignacion := by
  cases ha : archivoDe pid s with
  | some a =>
    have hpedido : archivoPedido cfg pid s = a := by rw [archivoPedido, ha, Option.getD_some]
    rw [recibirPagina_conocido ha] at h
    cases h
    exact ⟨congrArg some hpedido.symm, ha.trans (congrArg some hpedido.symm), .refl _, rfl⟩
  | none =>
    have hfind := ha
    have hpedido : archivoPedido cfg pid s = archivoConMasEspacio cfg s := by
      rw [archivoPedido, ha, Option.getD_none]
    rw [archivoDe_eq_find, Option.map_eq_none_iff] at hfind
    simp only [recibirPagina, hfind] at h
    obtain ⟨libre, hlibre, h⟩ := bind_eq_ok.1 h
    obtain ⟨i, x, rfl, -⟩ := (hayEspacioArchivo_spec hb _).post_of_eq hlibre
    cases h
    have hfichas : fichas { s with carpinchos := s.carpinchos ++
        [{ pid := pid, archivo := archivoConMasEspacio cfg s, cantMarcos := 0 }] } =
        fichas s ++ [(pid, archivoConMasEspacio cfg s)] := by
      simp [fichas, Carpincho.ficha]
    rw [hpedido]
    refine ⟨rfl, ?_, ⟨.nuevo pid _ ha hfichas, rfl, rfl, rfl⟩, rfl⟩
    rw [archivoDe_nuevo hfichas, ha, if_pos rfl, Option.none_or]

theorem recibirPagina_puedeEscribir (hb : Bien cfg s)
    (h : recibirPagina cfg pid .puedeEscribir s = .ok (r, s')) :
    s' = s ∧ r = some (archivoPedido cfg pid s) := by
  cases ha : archivoDe pid s with
  | some a =>
    rw [recibirPagina_conocido ha] at h
    cases h
    rw [archivoPedido, ha, Option.getD_some]
    exact ⟨rfl, rfl⟩
  | none =>
    have hfind := ha
    rw [archivoDe_eq_find, Option.map_eq_none_iff] at hfind
    simp only [recibirPagina, hfind] at h
    obtain ⟨libre, hlibre, h⟩ := bind_eq_ok.1 h
    obtain ⟨i, x, rfl, -⟩ := (hayEspacioArchivo_spec hb _).post_of_eq hlibre
    cases h
    rw [archivoPedido, ha, Option.getD_none]
    exact ⟨rfl, rfl⟩

theorem chequearAsignacion_conserva {asignacion : ℤ} (hb : Bien cfg s)
    (h : chequearAsignacion cfg pid s = .ok (asignacion, s')) :
    Conserva s s' ∧ s'.casoAsignacion = s.casoAsignacion := by
  unfold chequearAsignacion at h
  split at h
  · split at h
    · cases h
      exact ⟨.refl _, rfl⟩
    · split at h
      · cases h
        exact ⟨.refl _, rfl⟩
      · obtain ⟨_, -, h⟩ := bind_eq_ok.1 h
        split at h
        · cases h
        · cases h
          exact ⟨.refl _, rfl⟩
  · split at h
    · obtain ⟨⟨unArchivo, u⟩, hu, h⟩ := bind_eq_ok.1 h
      obtain ⟨rfl, -, hconserva, hcaso⟩ := recibirPagina_escribir hb hu
      obtain ⟨libre, -, h⟩ := bind_eq_ok.1 h
      cases libre with
      | some m =>
        cases h
        exact ⟨hconserva, hcaso⟩
      | none =>
        cases h
        exact ⟨hconserva, hcaso⟩
    · cases h
      exact ⟨.refl _, rfl⟩

/-- A carpincho that is known is not registered again. -/
theorem chequearAsignacion_conocido {asignacion : ℤ} (ha : archivoDe pid s = some a)
    (h : chequearAsignacion cfg pid s = .ok (asignacion, s')) : s' = s := by
  unfold chequearAsignacion at h
  rw [recibirPagina_conocido ha] at h
  split at h
  · split at h
    · cases h
      rfl
    · split at h
      · cases h
        rfl
      · obtain ⟨_, -, h⟩ := bind_eq_ok.1 h
        split at h <;> cases h
        rfl
  · split at h
    · rw [ok_bind] at h
      obtain ⟨libre, -, h⟩ := bind_eq_ok.1 h
      cases libre <;> cases h <;> rfl
    · cases h
      rfl

end Funciones

section Invariante

theorem Bien.actualizarMarcos_eq (hb : Bien cfg s) {x : Marco} (hx : s.marcos[i]? = some x)
    (indice pid : ℤ) :
    (actualizarMarcos x.archivo x.marco indice pid s).marcos =
      s.marcos.set i { x with indice := indice, pid := pid } :=
  map_ite_eq_set hx ⟨rfl, rfl⟩
    fun _ _ hy hp => (hb.lugar_inj hx hy hp.1.symm hp.2.symm).symm

variable {m : Marco} {bytes : List UInt8}

theorem Conserva.bien (h : Conserva s s') (hb : Bien cfg s) : Bien cfg s' := by
  refine ⟨?_, fun m hm hindice => ?_, h.registra.pids hb.pids⟩
  · rw [h.marcos]
    exact hb.lugares
  · rw [h.marcos] at hm
    exact h.registra.archivoDe (hb.conocidos m hm hindice)

theorem Guarda.bien (h : Guarda cfg pid pagina bytes i m s s') (hb : Bien cfg s) :
    Bien cfg s' := by
  refine ⟨?_, fun x hx hindice => ?_, h.registra.pids hb.pids⟩
  · have hi := hb.lugar h.hueco
    obtain ⟨hlt, hi⟩ := List.getElem?_eq_some_iff.1 hi
    rw [h.marcos, List.map_set, hb.lugares]
    simp only [← hi]
    exact List.set_getElem_self hlt
  · rw [h.marcos] at hx
    rcases List.mem_or_eq_of_mem_set hx with hx | rfl
    · exact h.registra.archivoDe (hb.conocidos x hx hindice)
    · exact h.conocido

theorem Sirve.bien (h : Sirve cfg pid pagina i archivo s s') (hb : Bien cfg s) :
    Bien cfg s' := by
  refine ⟨?_, fun x hx hindice => ?_, ?_⟩
  · rw [h.marcos, actualizarMarcos, List.map_map, ← hb.lugares]
    refine List.map_congr_left fun x _ => ?_
    simp only [Function.comp_apply]
    split <;> rfl
  · rw [h.marcos] at hx
    obtain ⟨y, hy, rfl⟩ := List.mem_map.1 hx
    rw [archivoDe_congr h.registra]
    split at hindice
    · exact absurd rfl hindice
    · next hno =>
      rw [if_neg hno]
      exact hb.conocidos y hy hindice
  · rw [h.registra]
    exact hb.pids

theorem Cambio.bien {x : Peticion × Basura} {r : List UInt8} (h : Cambio cfg s s' x r)
    (hb : Bien cfg s) : Bien cfg s' := by
  cases h with
  | guarda _ h => exact h.bien hb
  | sirve _ h => exact h.bien hb
  | conserva _ _ _ h => exact h.bien hb

/-- Only CASO_ASIGNACION changes the kind of assignment. -/
theorem Cambio.caso {x : Peticion × Basura} {r : List UInt8} (h : Cambio cfg s s' x r)
    (hno : ∀ caso, x.1 ≠ .casoAsignacion caso) :
    s'.casoAsignacion = s.casoAsignacion := by
  cases h with
  | guarda hcaso _ => exact hcaso
  | sirve hcaso _ => exact hcaso
  | conserva _ _ hcaso _ =>
    rcases hcaso with hcaso | ⟨caso, hcaso⟩
    · exact hcaso
    · exact absurd hcaso (hno caso)

theorem inicial_bien (cfg : Config) (basura : ℕ → ℤ) : Bien cfg (inicial cfg basura) := by
  refine ⟨?_, fun m hm hindice => ?_, by simp [fichas, inicial]⟩
  · refine List.ext_getElem? fun i => ?_
    cases h : cfg.lugares[i]? <;> simp [inicial, iniciarMarcos, h]
  · obtain ⟨j, hj, rfl⟩ := List.mem_mapIdx.1 hm
    exact absurd rfl hindice

end Invariante

section Cambios

variable {r : List UInt8} {buffer : List UInt8} {basura : Basura}

theorem escribirSwap_cambio (hb : Bien cfg s)
    (h : escribirSwap cfg pid pagina buffer basura s = .ok (r, s')) :
    Cambio cfg s s' (.escribir pid pagina buffer, basura) r := by
  obtain ⟨⟨archivo, t⟩, ht, h⟩ := bind_eq_ok.1 h
  obtain ⟨rfl, ha, hconserva, hcaso⟩ := recibirPagina_escribir hb ht
  generalize archivoPedido cfg pid s = a at h ha
  have hbt := hconserva.bien hb
  obtain ⟨libre, hlibre, h⟩ := bind_eq_ok.1 h
  obtain ⟨i, x, rfl, hx, rfl, hindice⟩ := (hayEspacioArchivo_spec hbt a).post_of_eq hlibre
  dsimp only at h
  obtain ⟨⟨asignacion, u⟩, hu, hfin⟩ := bind_eq_ok.1 h
  obtain rfl : u = t := chequearAsignacion_conocido ha hu
  dsimp only at hfin
  split at hfin
  · cases hfin
    have hmarcos : (actualizarMarcos x.archivo x.marco pagina pid u).marcos =
        s.marcos.set i { x with indice := pagina, pid := pid } := by
      rw [hbt.actualizarMarcos_eq hx, hconserva.marcos]
    have helegido : hayEspacioArchivo cfg (some x.archivo) s = .ok (some x.marco) := by
      rw [← hlibre, hayEspacioArchivo, hayEspacioArchivo, hconserva.marcos]
    refine .guarda hcaso ⟨?_, hconserva.marcos ▸ hx, hindice, helegido, ?_, hmarcos, ?_, ?_⟩
    · have hfichas := fichas_actualizarCarpincho 1 pid u
      cases hconserva.registra with
      | igual h => exact .igual (hfichas.trans h)
      | nuevo p a hp h => exact .nuevo p a hp (hfichas.trans h)
    · exact (archivoDe_congr (fichas_actualizarCarpincho 1 pid u) pid).trans ha
    · simp only [actualizarCarpincho, actualizarMarcos, guardar, hconserva.contenido]
    · simp only [actualizarCarpincho, actualizarMarcos, guardar, hconserva.accesos]
  · cases hfin
    exact .conserva (fun _ _ _ _ => rfl) (fun _ _ h => by cases h) (Or.inl hcaso) hconserva

theorem leerSwap_cambio (h : leerSwap cfg pid pagina basura s = .ok (r, s')) :
    Cambio cfg s s' (.leer pid pagina, basura) r := by
  rw [leerSwap, recibirPagina_leer, ok_bind] at h
  have hconserva {r : List UInt8}
      (hno : archivoDe pid s = none ∨ conseguirMarco pid pagina s = none) :
      Cambio cfg s s (.leer pid pagina, basura) r :=
    .conserva (fun _ _ _ h => by cases h) (fun _ _ h => by cases h; exact hno) (Or.inl rfl)
      (.refl s)
  cases ha : archivoDe pid s with
  | none =>
    simp only [ha] at h
    cases h
    exact hconserva (Or.inl ha)
  | some archivo =>
    cases hi : conseguirMarco pid pagina s with
    | none =>
      simp only [ha, hi] at h
      cases h
      exact hconserva (Or.inr hi)
    | some i =>
      simp only [ha, hi] at h
      cases h
      exact .sirve rfl ⟨fichas_actualizarCarpincho _ _ _, hi, ha, rfl, rfl, rfl⟩

theorem puedeEscribir_conserva {cant : ℤ} (hb : Bien cfg s)
    (h : puedeEscribir cfg pid cant s = .ok (r, s')) :
    Conserva s s' ∧ s'.casoAsignacion = s.casoAsignacion := by
  obtain ⟨⟨archivo, t⟩, ht, h⟩ := bind_eq_ok.1 h
  obtain ⟨rfl, rfl⟩ := recibirPagina_puedeEscribir hb ht
  obtain ⟨⟨asignacion, u⟩, hu, h⟩ := bind_eq_ok.1 h
  have hconserva := chequearAsignacion_conserva hb hu
  dsimp only at h
  split at h
  · cases h
    exact hconserva
  · cases h
    exact hconserva

/-- What one request does, said once. -/
theorem procesar_cambio {x : Peticion × Basura} (hb : Bien cfg s)
    (h : serverProcesarMensaje cfg x s = .ok (r, s')) : Cambio cfg s s' x r := by
  obtain ⟨peticion, basura⟩ := x
  cases peticion with
  | leer pid pagina => exact leerSwap_cambio h
  | escribir pid pagina buffer => exact escribirSwap_cambio hb h
  | puedeEscribir pid cant =>
    obtain ⟨hconserva, hcaso⟩ := puedeEscribir_conserva hb h
    exact .conserva (fun _ _ _ h => by cases h) (fun _ _ h => by cases h) (Or.inl hcaso) hconserva
  | casoAsignacion caso =>
    have hconserva : Conserva s s' := by
      simp only [serverProcesarMensaje] at h
      split at h <;> cases h
      · exact ⟨.igual rfl, rfl, rfl, rfl⟩
      · exact .refl _
    exact .conserva (fun _ _ _ h => by cases h) (fun _ _ h => by cases h) (Or.inr ⟨caso, rfl⟩)
      hconserva

end Cambios

section Ranuras

variable {m : Marco} {bytes : List UInt8} {k : ℤ × ℤ}

theorem Marco.ocupante_eq_some : m.ocupante = some k ↔ m.indice ≠ -1 ∧ (m.pid, m.indice) = k := by
  unfold Marco.ocupante
  split
  · next h => simp [h]
  · next h => simp [h]

theorem ranura_eq_some (h : s.marcos[i]? = some m) : ranura s i = m.ocupante := by
  rw [ranura, h, Option.bind_some]

theorem exists_of_ranura (h : ranura s i = some k) :
    ∃ m, s.marcos[i]? = some m ∧ m.indice ≠ -1 ∧ (m.pid, m.indice) = k := by
  obtain ⟨m, hm, hk⟩ := Option.bind_eq_some_iff.1 h
  exact ⟨m, hm, Marco.ocupante_eq_some.1 hk⟩

theorem Bien.conocido (hb : Bien cfg s) (h : ranura s i = some k) :
    ∃ archivo, archivoDe k.1 s = some archivo := by
  obtain ⟨m, hm, hindice, rfl⟩ := exists_of_ranura h
  exact ⟨_, hb.conocidos m (List.mem_of_getElem? hm) hindice⟩

theorem ranura_congr (h : s'.marcos = s.marcos) : ranura s' = ranura s := by
  funext i
  rw [ranura, h, ranura]

theorem ranura_set {x : Marco} (hm : s.marcos[i]? = some m) (h : s'.marcos = s.marcos.set i x) :
    ranura s' = Function.update (ranura s) i x.ocupante := by
  have hlt := (List.getElem?_eq_some_iff.1 hm).1
  funext j
  rw [ranura, h, List.getElem?_set, Function.update_apply]
  by_cases hij : i = j
  · subst hij
    rw [if_pos rfl, if_pos rfl, if_pos hlt, Option.bind_some]
  · rw [if_neg hij, if_neg (Ne.symm hij), ranura]

theorem Guarda.ranura_libre (h : Guarda cfg pid pagina bytes i m s s') : ranura s i = none := by
  rw [ranura_eq_some h.hueco, Marco.ocupante, if_pos h.libre]

theorem Guarda.ranura (h : Guarda cfg pid pagina bytes i m s s') (hpagina : pagina ≠ -1) :
    ranura s' = Function.update (ranura s) i (some (pid, pagina)) := by
  rw [ranura_set h.hueco h.marcos, Marco.ocupante, if_neg hpagina]

theorem conseguirMarco_eq_some (hpagina : pagina ≠ -1)
    (h : conseguirMarco pid pagina s = some i) : ranura s i = some (pid, pagina) := by
  obtain ⟨hlt, hi, -⟩ := List.findIdx?_eq_some_iff_getElem.1 h
  have hm := List.getElem?_eq_getElem hlt
  simp only [decide_eq_true_eq] at hi
  rw [ranura_eq_some hm, Marco.ocupante_eq_some, hi.1, hi.2]
  exact ⟨hpagina, rfl⟩

theorem conseguirMarco_eq_none (hpagina : pagina ≠ -1) :
    conseguirMarco pid pagina s = none ↔ ¬ Holds (ranura s) (pid, pagina) := by
  constructor
  · rintro h ⟨i, hi⟩
    obtain ⟨m, hm, -, hk⟩ := exists_of_ranura hi
    obtain ⟨hpid, hindice⟩ := Prod.mk.inj hk
    have hno := List.findIdx?_eq_none_iff.1 h m (List.mem_of_getElem? hm)
    simp [hpid, hindice] at hno
  · intro h
    cases hi : conseguirMarco pid pagina s with
    | none => rfl
    | some i => exact absurd ⟨i, conseguirMarco_eq_some hpagina hi⟩ h

theorem conseguirMarco_of_unique (hpagina : pagina ≠ -1) (hu : Unique (ranura s)) :
    conseguirMarco pid pagina s = some i ↔ ranura s i = some (pid, pagina) := by
  constructor
  · exact conseguirMarco_eq_some hpagina
  · intro h
    cases hi : conseguirMarco pid pagina s with
    | none => exact absurd ⟨i, h⟩ ((conseguirMarco_eq_none hpagina).1 hi)
    | some j => rw [hu j i _ (conseguirMarco_eq_some hpagina hi) h]

/-- Serving a page of the first file marks as free the slot it was read from. -/
theorem Sirve.marcos_primero (h : Sirve cfg pid pagina i archivo s s') (hb : Bien cfg s)
    (hpagina : pagina ≠ -1) (hi : i < cfg.cantMarcos) :
    ∃ m, s.marcos[i]? = some m ∧ m.indice ≠ -1 ∧ m.pid = pid ∧
      s'.marcos = s.marcos.set i { m with indice := -1, pid := pid } := by
  obtain ⟨m, hm, hindice, hk⟩ := exists_of_ranura (conseguirMarco_eq_some hpagina h.encontrado)
  have harchivo : m.archivo = archivo := by
    have hconocido := hb.conocidos m (List.mem_of_getElem? hm) hindice
    rw [(Prod.mk.inj hk).1, h.conocido] at hconocido
    exact (Option.some.inj hconocido).symm
  have hmarco : m.marco = i := (hb.marco_eq_iff hm).2 hi
  refine ⟨m, hm, hindice, (Prod.mk.inj hk).1, ?_⟩
  rw [h.marcos, ← hb.actualizarMarcos_eq hm (-1) pid, harchivo, hmarco]

theorem Sirve.ranura_primero (h : Sirve cfg pid pagina i archivo s s') (hb : Bien cfg s)
    (hpagina : pagina ≠ -1) (hi : i < cfg.cantMarcos) :
    ranura s' = Function.update (ranura s) i none := by
  obtain ⟨m, hm, -, -, hset⟩ := h.marcos_primero hb hpagina hi
  rw [ranura_set hm hset, Marco.ocupante, if_pos rfl]

theorem Bien.lt_length (hb : Bien cfg s) (h : ranura s i = some k) :
    i < cfg.cantMarcos * cfg.cantArchivos := by
  obtain ⟨m, hm, -⟩ := exists_of_ranura h
  rw [← hb.length_marcos]
  exact (List.getElem?_eq_some_iff.1 hm).1

/-- Serving a page of another file empties no slot: none of them has that number. -/
theorem Sirve.marcos_otro (h : Sirve cfg pid pagina i archivo s s') (hb : Bien cfg s)
    (hi : cfg.cantMarcos ≤ i) : s'.marcos = s.marcos := by
  rw [h.marcos]
  refine map_ite_eq_self fun y hy => ?_
  rintro ⟨-, hnumero⟩
  obtain ⟨j, hj⟩ := List.mem_iff_getElem?.1 hy
  have hlt := hb.marco_lt hj
  omega

end Ranuras

end Carpinchos.Swamp
