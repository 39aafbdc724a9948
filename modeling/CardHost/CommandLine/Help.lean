import CardHost.CommandLine.Usage

namespace CardHost.CommandLine

def optionHelp : List (String × String) :=
  [ ("      --sd-card <SD_CARD>",
      "Path to SD card image (raw disk image, optionally MBR + FAT). Without it an empty in-memory " ++
        "card of --card-size MiB is used"),
    ("      --card-size <CARD_SIZE>", "Size of the in-memory card in MiB [default: 64]"),
    ("      --soc <SOC>",
      "SoC whose MCI block (and quirks) to simulate [default: sam9260] [possible values: " ++
        ", ".intercalate (Soc.all.map Soc.name) ++ "]"),
    ("      --master-clock <MASTER_CLOCK>",
      "Master clock in Hz (hex: 0x1234 or decimal: 1234); defaults to the SoC's reference board"),
    ("      --unit <UNIT>",
      "Controller unit number, used for AT91_MCI_<unit>_* hints [default: 0]"),
    ("      --four-wire", "Use the 4-bit data bus"),
    ("      --one-wire", "Stay on the 1-bit data bus"),
    ("      --no-overclock", "Never run a 25 MHz request at MCK / 2"),
    ("      --read-sector <READ_SECTOR>", "Dump this sector (hex: 0x1234 or decimal: 1234)"),
    ("      --write-sector <WRITE_SECTOR>", "Write the first 512 bytes of --input to this sector"),
    ("      --input <INPUT>", "Local file supplying --write-sector data"),
    ("      --file <FILE>",
      "Read this file from the FAT filesystem on the card (e.g. \"boot/uImage\")"),
    ("  -o, --output <OUTPUT>", "Where to store --file or --read-sector data instead of stdout"),
    ("  -h, --help", "Print help") ]

def usageLine : String := "Usage: at91mci-cli [OPTIONS]"

def helpColumn : Nat := (optionHelp.map fun (option, _) => option.length).foldl max 0 + 2

def optionLine (option text : String) : String :=
  String.ofList (option.toList.rightpad helpColumn ' ') ++ text ++ "\n"

def helpText : String :=
  usageLine ++ "\n\nOptions:\n" ++
    String.join (optionHelp.map fun (option, text) => optionLine option text)

def UsageError.message : UsageError → String
  | unknownWord => "error: unexpected argument found"
  | invalidValue => "error: a value is missing or not among the possible values"
  | malformedValue => "error: invalid value for an option"
  | conflict => "error: an option cannot be used with another one, or twice"
  | unexpectedValue => "error: unexpected value for an option"
  | helpWanted => ""

end CardHost.CommandLine
