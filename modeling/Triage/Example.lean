import Triage.Program.Basic

namespace Triage.Example

def source : String :=
"stmt
    no_boot = The computer does not turn on
    fan_noise = The fan is making loud noises
    graphics_issues = The screen shows artifacts or flickers
    slow_performance = The computer is running slowly
    overheating = The case feels hot to the touch
endstmt

results
    power_supply = Check the power supply unit and cables
    cooling = Clean the fans and renew the thermal paste
    gpu = The graphics card may be failing
    malware = Run a malware scan and review startup programs
endresults

rules
    IF no_boot THEN power_supply
    IF fan_noise OR overheating THEN cooling
    IF graphics_issues AND (fan_noise OR no_boot) THEN gpu
    IF slow_performance AND NOT overheating THEN malware
endrules
"

def declaration (name value : String) : Declaration := ⟨.text name, .text value⟩

def yes (name : String) : Expr := .leaf ⟨.text name, false⟩

def no (name : String) : Expr := .leaf ⟨.text name, true⟩

def program : Program where
  statements := [
    declaration "no_boot" "The computer does not turn on",
    declaration "fan_noise" "The fan is making loud noises",
    declaration "graphics_issues" "The screen shows artifacts or flickers",
    declaration "slow_performance" "The computer is running slowly",
    declaration "overheating" "The case feels hot to the touch"]
  results := [
    declaration "power_supply" "Check the power supply unit and cables",
    declaration "cooling" "Clean the fans and renew the thermal paste",
    declaration "gpu" "The graphics card may be failing",
    declaration "malware" "Run a malware scan and review startup programs"]
  rules := [
    ⟨yes "no_boot", .text "power_supply"⟩,
    ⟨.node .or (yes "fan_noise") (yes "overheating"), .text "cooling"⟩,
    ⟨.node .and (yes "graphics_issues") (.node .or (yes "fan_noise") (yes "no_boot")), .text "gpu"⟩,
    ⟨.node .and (yes "slow_performance") (no "overheating"), .text "malware"⟩]

end Triage.Example
