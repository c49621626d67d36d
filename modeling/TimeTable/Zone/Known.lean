import TimeTable.Zone.Africa
import TimeTable.Zone.Amsterdam
import TimeTable.Zone.Asia
import TimeTable.Zone.London
import TimeTable.Zone.LordHowe
import TimeTable.Zone.NewYork
import TimeTable.Zone.Pacific
import TimeTable.Zone.SaoPaulo

/-!
# Known zones

The zones that can be asked for by name: a part of the database of zones. Names are matched exactly.
-/

namespace TimeTable.Zone

/-- A zone whose offset never changes. -/
def fixed (name : String) (offset : ZoneOffset) : Zone := ⟨name, offset, []⟩

def utc : Zone := fixed "UTC" { seconds := 0, abbreviation := "UTC" }

/-- The zones that are known. The database of zones has many more; these sixteen cover its cases: offsets
that never change, changes of half an hour, a day left out, and a second name for the same clock. The
operations take any zone, so only the reading of names is restricted. -/
def known : List Zone :=
  [utc, fixed "Etc/UTC" utc.initial, fixed "GMT" { seconds := 0, abbreviation := "GMT" },
    fixed "Etc/GMT+5" { seconds := -18000, abbreviation := "-05" },
    EuropeLondon.zone, EuropeAmsterdam.zone, AsiaTokyo.zone, AmericaNewYork.zone,
    ⟨"US/Eastern", AmericaNewYork.zone.initial, AmericaNewYork.zone.transitions⟩,
    AsiaKolkata.zone, AsiaKathmandu.zone, AustraliaLordHowe.zone, PacificApia.zone,
    AmericaSaoPaulo.zone, PacificKiritimati.zone, AfricaMonrovia.zone]

/-- The zone with a name, if it is a known one. Any other name of the database counts as unknown. -/
def ofName? (name : String) : Option Zone := known.find? fun zone => zone.name == name

end TimeTable.Zone
