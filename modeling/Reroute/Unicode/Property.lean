import Reroute.Unicode.Category

set_option autoImplicit false

namespace Reroute.Unicode

def alphabeticTable : String :=
  "cNZGZbVAKAEAFWBbEBrPELOEHABAdIAbDRBBCDBAGABCBABTBdEBfIIgJBbLCAGbObNNBABBBBBAIbAEDbDKFcDBGOdX" ++
    "BHEHECKCCAQbVNdWYbGJBEAFXCSTYHKFXBGHAIbPKLDGGcXBPBCEONSBHCBCVBGBADDDHCBCBBAIAEBBEMBKAECBFEBC" ++
    "VBGBBBBBBEEEBCBEAHDBARFLCBIBCBVBGBBBEDIBCBBDAPDVDECBHCBCVBGBBBEDHCBCBJBEBBENAQBBFDCBDDBBABBD" ++
    "BDCDLEEDCBCDAGAbOMBCBWBPDHBCBCIBBCBBCDbCDBHBCBWBJBEDHBCBCIBFCBDNCMMBCBbOCHBCBCBAFDHEWFBCBRDX" ++
    "BIBACGIFBABHSBNcFFGGAbZBBABEBXBABSBCCEBAGAODbGAcLHBbJESEPBbJcPcCBACEQcLKDCbLBAFACbQBmUBDCGBA" ++
    "BDCbOBDCbGBDCGBABDCOBcEBDCcObLPQdHCFDxVCQBZFcWDKHTLUMTMMBCBBMbZCSOAEAcPdKHbQFcRKbEBLEIXbDCEL" ++
    "bREZcCbBEcKCTbYAXBLCbXbZBOBHbZbPCDKbRBKOcCWCKbJCKFbQCCbPDBFBBDAFhJTbHLkRCFCbLCFCHBABABABbECc" ++
    "ABGBADCBGDDCFEMFCBGeMANAQMdXAEACJBADEGABABABDBKCDFEEARbObfHbZcrUiUGDDBMbLBAFACcDHAQWJGBGBGBG" ++
    "BGBGBGBGBbFbVAsBCZIHECEEdHGCBdLBDFbQBdPRbFbWPtSjtNcMbguEcPbTCkIDPKBUbUFHDeIbNICdYCdDUUBbGYbZ" ++
    "McPBAbSFDABCKbGFbINbCDbYBLPAQPKEBcCJNSWDcQBABAYCCPCDLFCFCFJGBGBbQBNGeSVqnRMWEbWmnCoBCeBbMGME" ++
    "FLBMBEBABBBBBeDbHnYScLCcBbOLeMEBfEbKZGZLdKDFCFCFCCbJLBZBSBBBOCNbIeScRcAkHbCDbWbVbFNbDFbQFbDC" ++
    "bJEHBEbQgBSbJEbJEbNIbZMKBOBGBBBKBOBGBBDbZMlYJVKHYFBbPBIcRFCABbRBBDACWKWJbEcNSBBKVKZGZbMcDGBc" ++
    "MDBBFHBCBbCbQbCDbCbJHBbBbBcBKVKSNReGcUcDbYNbYNbNbIbBDAFWjQbPBBDBQFbYCDbCKAIVbQRbUUbBWJcRbREK" ++
    "cEJANYXbYRDIbIDAJcLBDJBKABAbJRBbHCAGDcKGBABDBOBJHcEXDBHCBCVBGBBBEDHCBCBDAGAFGbCJBACABbLBJBAC" ++
    "ABDBBDABAbScNBCBDUCbEcNCBBAhCcBCGZFbIcKBADAcHcBCAcTbACNVGhDcEdZcLbFHCACHBBBbDBBCBCDdPHCbTCFB" ++
    "ABBbBbYCJRcTFAScUdZHdKbGbFIBbSBGBAbXbDCVBNcVGBBBbRDABBBCBACBYFBBBbKBBBDBAXbRkAWJQBbODCeHAdBb" ++
    "jLdYeGRhNdxKdSPbpFRFZfxQFwKkdDbUcpDvWHbERdARbDSbVQDbFUFSqQbSiDcLbGYCYbScWEcEHQcMBBAMGJkxXbPb" ++
    "FdTeKmwRDBGBBBlEPAbDCCAODIpFdkUeCFMDIHJEAiwFdGBcSBBCACBCDBLBABGBcMBDCHBGBbBBDBEBADGBnBCYBYBb" ++
    "EBYBbEBYBbEBYBbEBYBHcsYbEGFiFGBQCGBBBEFcJbHAeIbSKGQAmJbDSbRsQbBiUbDCAhZbEBVIBiQGBDBBBOBhOcHc" ++
    "PDADAbuIDBbABBBACABJBDBABAGAEABABABCBBBACABABABABABBBACDBGBDBDBABJBQFCBEBQyEZGZGZfmKclfBbGgm" ++
    "NCioBClbKPxXdqWuVcfYhhYFmoN"

def whiteSpaceTable : String :=
  "JESAdWAbAAihJAdpNKbDBFAbVAfxWA"

def joinControlTable : String :=
  "mdOB"

def graphemeExtendTable : String :=
  "bdOeHkPGkDbSBABBBBBAcUKbWUQAdXGCFCBBDbJAbEbAdNKcGIJAYDBIBCBEbRCcHIbQXBbFcDABAEHEADGKBbDAcGAB" ++
    "ACDIAJAKBbAACBcFAEBEBCCDAbEBDALBcFAEEBBEAUBWFBAcGABBBDIAHCKBbEAcHABAMAJAbOADAcDABCFCBDHBLBbD" ++
    "AcGACBBADCBDHBLBbCBcFBBACDIAJAKBbDAcUAEACCBAIAdDACGMHdUACILGcVBbBABABAcDNBEBBFKBbJJAdYDBFBBC" ++
    "BZBECQDNACBGAPAbbBCbkKDbCCbDBbEBcMBBGIACKJAbTCBAeNBbIAeOCEBJAGCiLBCAcGABGBABACHGJCAbWbTCLUDb" ++
    "WJECbMIMBbGDCFcEABBDABEcEHCBfWCBMBGEAGADBhQcLuEAhNbGeoCCfLAdSbFvIFeBBbsqEDBJbGBdCBkMADAEAZBF" ++
    "AfVBbARNAbMHZKBAbSCbWACDCBCAbKAcPFCBCBMAIAbVAbZABCCBFBBAbQBIAjEACAEAbdzSAbcJPQPoCBxHAiSAfTEc" ++
    "mGCBBFDbOCEAgJBwBDcNEmFBcZFcSKbXDeTAcCObPACBKCbXDCBHAcJCbKEBHcKAMBcAIBAIDCAdRCCDGACAgBADHVBc" ++
    "FBBABAMAJAOGDEcPACFBACABCECBAOBdHHCCBAXAdDACFBACABBBBjBACDGBBBbBBdHHCABBeCABACHdXABACDBEjZIB" ++
    "BjLAKDEAfODCBEAbGJbOFCDIAJFCCbUMBBhQABCBAhTGBFBAdEVCGBBBBeSFDABBBGBAcUBDABAnJBLBcAEFCXAhxTAG" ++
    "OqyYLDCdsAEcHGboIAcLDdDALBbdaXBgyZbTCWuWEDFIHCGbEDfSCcyDcCEbXIAOAWEBOcaIGBQCGBBBEdWAgEGoLAcJ" ++
    "DtODjUBjJACAHBFAsGGeFGbtcaFdReYjF"

/-- The other binary properties: names in lower case without separators, and the table. -/
def propertyTables : List (String × String) :=
  [("alphabetic alpha", alphabeticTable),
   ("whitespace wspace space", whiteSpaceTable),
   ("joincontrol joinc", joinControlTable),
   ("graphemeextend grext", graphemeExtendTable),
   ("asciihexdigit ahex",
     "bWJHFbAF"),
   ("bidicontrol bidic",
     "ciEAjvLBbAEcDD"),
   ("bidimirrored bidim",
     "bOBSABAbCABAbDABAbTAPAfmSDcuNBdqQBKBcCBOBgVAhKDDFDADBDDBDBABAEIFABRFDJBBABHBbFCDFAJBCSFBJECB" ++
      "EXCPIDUBHBbpTNcWACDBBBCFDFCDNpNVCFBNIAHFDAEEBBCEEABCCBKFCBMSBDCABACABDFBGCYBLBEDBBCBEbQCHBbN" ++
      "FABADEFCEADEBAjWAtVDDBBBOBCJbRHqLJCHdacRFFBgGBSABAbCABAbDABABBBBddpNAcFAcFAcFAcFA"),
   ("caseignorable ci",
     "bNAGALAbJABAcTAEABAEACBtJhJEBEAJBBAjRGhZAFAbXbSBABBBBBAbSALFKKBAbJAKUQAdXHBJBDbHABAbEbAdNKcG" ++
      "KEACAYXbRCbSAHBFIbPcFcDABAEHEADGKBNAPAcGAEDIAUBbAACBcFAEBEBCCDAbEBDALBcFAEEBBEAUBWFBAcGACABD" ++
      "IAHBLBbEAcJAMAbYADAcDABCFCBDHBLBbDAcGACAGAFBUBbCBcFBEDIAUBbDAcUAHCBAdMACGLIdUACIJABGcVBbBABA" ++
      "BAcDNBEBBFKBbJJAdYDBFBBCBZBECQDNACBGAPAdQAxKCbkKCbDBbEBbEBcMBBGIACKDAFAbTEbZAcNBbIAeOCEBJAGC" ++
      "iLBCAcGABGBABACHGJCAbNAIbTCLUDbWABEBAFAbOIMBbGDCBBCcEABBDABCcGHCBcMFdECBMBGEAGADBbYcKNAbIdWr" ++
      "DABCLCNCNCNBMEIBKACACEbXEBJBANAQMbZbGejRBeJCeVAPAdSbFbVAsBAbKDDEFAdPFdPCbqbUAbwCFkKAdUDBJBAb" ++
      "CDdCBObHdAAXCdYDDBIADAEAZBFAfVBbARNAbMHZKbUCbWACDCBRAVBcOFCBCBMAIAbJALAbZABCCBFBBAbBAOBFBBAd" ++
      "WEJCeRACAEAbdzSAfRQwBPDAMPbIACAgNAHAGALAbJABAbVAbTBcPAVCtTAiSAfTEbnPFBbPBIwKCBBFDbOCEAgJBwBD" ++
      "bMAbAEBAmDBYAcAFcSKbXDeTAcCObPACBKCbXDCBCAEAKAbYCbKEBHcKAMBcAIKDCAdRCCABBGACAgBADHVBcFBDAbLG" ++
      "DEcSFNABABAOBdHHCCBAXAdGFBAEBBBjEDGBBBbBBdHHCABBeCABACFBAdXABACDBEjZIBBjWBBAEAfODCBEAbGJbOFC" ++
      "DIAJFCCbUMBBhQABCBAhTGBFBAdEVCGBBBBeSFDABBBGBAcUBDABAcNAkVBLBcAEFABAXAhxDQGOqyYLDCdsAEcHGJDt" ++
      "OCbOBsOAcLQcMBBBNBygADBGBBeuGBBDgyUbTCWuYCJPCGbEDfSCcyDcCEbXIAOAWEBOcaIGBQCGBBBEFcJbHAgENoEA" ++
      "cJDtNEjUBjJACAHBFAJArWGeFHebFEbsxxPAbEdReYjF"),
   ("cased",
     "cNZGZbVAKAEAFWBbEBhMBDEhZCbIHBbEEdSAbQDCBCDBAGABCBABTBdEBfIIgJBbLJbOefFbLBAFACbQBDzWdHCFdfUK" ++
      "FbQCCcMhJcMkRCFCbLCFCHBABABABbECcABGBADCBGDDCFEMFCBGeMANAQMdXAEACJBADEGABABABDBFEACDFEEARbFD" ++
      "BbfLbZcrUiUGDDBMbLBAFAbtwCbTSbDfCdXDDBcYUFBCbfPbQBNGdBbeaIGMEbnTZGZbtTdBdSbJEbJeMKBOBGBBBKBO" ++
      "BGBBrJACCBbPBIbuZbYNbYdPVKVefIcLbgiQcLbGYCYbmiEdGBcSBBCACBCDBLBABGBcMBDCHBGBbBBDBEBADGBnBCYB" ++
      "YBbEBYBbEBYBbEBYBbEBYBHcsYJBTGFkBcJdgKcPdaAZGZGZ"),
   ("changeswhencasefolded cwcf",
     "cNZdMAKWBHbGABABABABABABABABABABABABABABABABABABABABABABABABABABABACABABABABABABABABBBABABAB" ++
      "ABABABABABABABABABABABABABABABABABABABBBABABABBBABBBCCDBBBCDBBBBABABBBACABBBCBABBDAHBBBBBBAB" ++
      "ABABABABABABACABABABABABABABABACBBABCBABABABABABABABABABABABABABABABABABABABABABABABABABABAB" ++
      "ABAHBBBCABDBABABABAjMAbQABADAIAGABCBABBBQBIWAMCDBBABABABABABABABABABABABABBCBBABBCbYbWABABAB" ++
      "ABABABABABABABABABABABABABAJABABABABABABABABABABABABABABABABABABABABABABABABABABABBBABABABAB" ++
      "ABACABABABABABABABABABABABABABABABABABABABABABABABABABABABABABABABABABABABABABABABABABABABAB" ++
      "ABABABACbLbWAefGbLBAFAbfEFdfUJGbQCCmIABABABABABABABABABABABABABABABABABABABABABABABABABABABA" ++
      "BABABABABABABABABABABABABABABABABABABABABABABABABABABABABABABABABABABABABABABABABABABABABABA" ++
      "BAFBCABABABABABABABABABABABABABABABABABABABABABABABABABABABABABABABABABABABABABABABABABABABA" ++
      "BABABABABAJHIFKHIHIFLABABABAIHQbVCCCFFCCFLDMEFCCFlLADBGAbTPTAbfMZcsUbVbWABCCABABABDBACAICBAB" ++
      "ABABABABABABABABABABABABABABABABABABABABABABABABABABABABABABABABABABABABABABABABABABABABABAB" ++
      "ABAIABAEAbtyJABABABABABABABABABABABABABABABABABABABABABABATABABABABABABABABABABABABABAfFABAB" ++
      "ABABABABADABABABABABABABABABABABABABABABABABABABABABABABABABABABABABABAKABABBBABABABAEABACAB" ++
      "ADABABABABABABABABABABEBEBABABABABABABABDBABBBABABABABABABABAYAbiGdBbeaIGMEbnTZbuZbNfGbJgAKB" ++
      "OBGBBcqCbYgBVegObFbgjWbFcMYbuhZbH"),
   ("changeswhencasemapped cwcm",
     "cNZGZcGAKWBbEBcLBdFBbBCNCBBAEdOBRGbABBBABBDBBDBECABBCAHACABBDFFAKBgKAbQDCBDCBAGABCBABTBbUDbG" ++
      "BEBfCIgJBbLKbMefGbLBAFACbQCCzWdHCFdfUKFbQCChDADAQAeJfZCABeNCFCbLCFCHBABABABbECcABGBADCBGDDCF" ++
      "EMFCBGlLADBGAbBARbFDBbfLbZcrUeIBBBBHdXHDDBMbLBAFAbtwCbTSbBfENCcJJODCCEBYBbSYBbhCAbCdBbeaIGME" ++
      "bnTZGZbtTdBdSbJEbJeMKBOBGBBBKBOBGBBcoPbYNbYdPVKVefIcLbgiQcLbGYCYbugYcP"),
   ("changeswhenlowercased cwl",
     "cNZdXWBGbHABABABABABABABABABABABABABABABABABABABABABABABABABABABACABABABABABABABACABABABABAB" ++
      "ABABABABABABABABABABABABABABABABABABBBABADBBABBBCCDBBBCDBBBBABABBBACABBBCBABBDAHBBBBBBABABAB" ++
      "ABABABABACABABABABABABABABACBBABCBABABABABABABABABABABABABABABABABABABABABABABABABABABABABAH" ++
      "BBBCABDBABABABAlDABADAIAGABCBABBBQBIbJAIABABABABABABABABABABABAFACABBCbYbWABABABABABABABABAB" ++
      "ABABABABABABABAJABABABABABABABABABABABABABABABABABABABABABABABABABABABBBABABABABABACABABABAB" ++
      "ABABABABABABABABABABABABABABABABABABABABABABABABABABABABABABABABABABABABABABABABABABABACbLeh" ++
      "DbLBAFAbbUdHdgLAGbQCCmIABABABABABABABABABABABABABABABABABABABABABABABABABABABABABABABABABABA" ++
      "BABABABABABABABABABABABABABABABABABABABABABABABABABABABABABABABABABABABABABABABAJABABABABABA" ++
      "BABABABABABABABABABABABABABABABABABABABABABABABABABABABABABABABABABABABABABABABABABABAJHIFKH" ++
      "IHIFLABABABAIHYHIHIHIELELDMELElLADBGAbTPTAbfMZcsUbVbWABCCABABABDBACAICBABABABABABABABABABABA" ++
      "BABABABABABABABABABABABABABABABABABABABABABABABABABABABABABABABABABABABABABAIABAEAbtyJABABAB" ++
      "ABABABABABABABABABABABABABABABABABABABATABABABABABABABABABABABABABAfFABABABABABABADABABABABA" ++
      "BABABABABABABABABABABABABABABABABABABABABABABABABABAKABABBBABABABAEABACABADABABABABABABABABA" ++
      "BABEBEBABABABABABABABDBABBBABABABABABABABAYAbhaHZbuZbNfGbJgAKBOBGBBcqCbYgBVegObFbgjWbFcMYbuh" ++
      "ZbH"),
   ("changeswhentitlecased cwt",
     "dTZcGAbPXBHBABABABABABABABABABABABABABABABABABABABABABABABABABABABACABABABABABABABBBABABABAB" ++
      "ABABABABABABABABABABABABABABABABABABACABABCCABACADAFACADCCACABABACAEACADABACADABAEABBBBBABAB" ++
      "ABABABABABABBBABABABABABABABABCBABADABABABABABABABABABABABABABABABABABABABADABABABABABABABAB" ++
      "AIACBBAEABABABABFBBBABBDBBDBECABBCAHACABBDFFAKBgKAbRABADADCSAbBbIBBDCBABABABABABABABABABABAB" ++
      "EBACACAcAbVBABABABABABABABABABABABABABABABABAJABABABABABABABABABABABABABABABABABABABABABABAB" ++
      "ABABABACABABABABABABBBABABABABABABABABABABABABABABABABABABABABABABABABABABABABABABABABABABAB" ++
      "ABABABABABABABABABABABABAbXbMfmEFdfUIBAjEADAQAeKABABABABABABABABABABABABABABABABABABABABABAB" ++
      "ABABABABABABABABABABABABABABABABABABABABABABABABABABABABABABABABABABABABABABABABABABABABABAB" ++
      "ABABABABABABGFABABABABABABABABABABABABABABABABABABABABABABABABABABABABABABABABABABABABABABAB" ++
      "ABABABABABABABABIIFKHIHIFKHIHINCHIHIHIEBBGADCBBIDCBIHKCBBnEAbHPEAbgLZctQbVBADBBABABAGACAKABA" ++
      "BABABABABABABABABABABABABABABABABABABABABABABABABABABABABABABABABABABABABABABABABABABABABABA" ++
      "BABAIABAEAMbLBAFAbtwDABABABABABABABABABABABABABABABABABABABABABABATABABABABABABABABABABABABA" ++
      "BAfFABABABABABABADABABABABABABABABABABABABABABABABABABABABABABABABABABABABABABAKABACABABABAB" ++
      "AEAEABBCABABABABABABABABABALABABABABABABABAEABACABABABABABABABAbAAbhCAbCdBbeaIGMEboZZbvHbNfG" ++
      "bJfZKBOBGBBcrBbYeVVegObFbgjWbFcHYbuiGbH"),
   ("changeswhenuppercased cwu",
     "dTZcGAbPXBHBABABABABABABABABABABABABABABABABABABABABABABABABABABABACABABABABABABABBBABABABAB" ++
      "ABABABABABABABABABABABABABABABABABABACABABCCABACADAFACADCCACABABACAEACADABACADABAFBBBBBBABAB" ++
      "ABABABABABBBABABABABABABABABBBBBADABABABABABABABABABABABABABABABABABABABADABABABABABABABABAI" ++
      "ACBBAEABABABABFBBBABBDBBDBECABBCAHACABBDFFAKBgKAbRABADADCSAbBbIBBDCBABABABABABABABABABABABEB" ++
      "ACACAcAbVBABABABABABABABABABABABABABABABABAJABABABABABABABABABABABABABABABABABABABABABABABAB" ++
      "ABABACABABABABABABBBABABABABABABABABABABABABABABABABABABABABABABABABABABABABABABABABABABABAB" ++
      "ABABABABABABABABABABABAbXbMehCbQCCbdGFdfUIBAjEADAQAeKABABABABABABABABABABABABABABABABABABABA" ++
      "BABABABABABABABABABABABABABABABABABABABABABABABABABABABABABABABABABABABABABABABABABABABABABA" ++
      "BABABABABABABABABGFABABABABABABABABABABABABABABABABABABABABABABABABABABABABABABABABABABABABA" ++
      "BABABABABABABABABABABIIFKHIHIFKHIHINCcABBEABADCBBEADDCBIHKCBBEAmZAbHPEAbgLZctQbVBADBBABABAGA" ++
      "CAKABABABABABABABABABABABABABABABABABABABABABABABABABABABABABABABABABABABABABABABABABABABABA" ++
      "BABABABABAIABAEAMbLBAFAbtwDABABABABABABABABABABABABABABABABABABABABABABATABABABABABABABABABA" ++
      "BABABABAfFABABABABABABADABABABABABABABABABABABABABABABABABABABABABABABABABABABABABABAKABACAB" ++
      "ABABABAEAEABBCABABABABABABABABABALABABABABABABABAEABACABABABABABABABAbAAbhCAbCdBbeaIGMEboZZb" ++
      "vHbNfGbJfZKBOBGBBcrBbYeVVegObFbgjWbFcHYbuiGbH"),
   ("dash",
     "bTAcaUAbZAfkJAbnPAdbDFcJAbNAPApAAeoIACAbFBEAbCArEATAeHAczwABbLAKAgNAflOAmGA"),
   ("defaultignorablecodepoint di",
     "gRAzXAbbOAegWBckHBdHEdaPEbAEbXPgkYAczmPPjFAgEAdBIctlNDhwXHbtkzLgbN"),
   ("deprecated dep",
     "mRAbyVAdkTABAdcJBdiJFbaVBbzryKA"),
   ("diacritic dia",
     "dQABAcTAGAEACBtJgCBHFFRBEAJBjTEiBAcDbSBABBBBBAfBHEBfEBEBDCcPbAdNKcGKbIBeWHbPJQbBcJAQADDbCAcW" ++
      "AQAeGAQAeGAQAbVCcIAQAHAePAeGAQAeGAQAeFBQAeUAeHAMFBAeDANEcXBbBABABAEBcOCBBcKAeIABBbOBEEZGBAKB" ++
      "bbDCbkMBbEAfSKJAnJClGAUHCAbWOCKDOCLcUAPAbMIcCBcGALBcOBcMFdEYEAGACCbYcKbWbJFLbLKrDABCLCNCNCNB" ++
      "exKCmFAtMFeBDdRAbsmKAMBBAbCBdEBObHdYCdYAGBMAbLAfVAbBRcFDbKAdRAMAbKAfTCcNDbZAdWEJCeYBbdzSAbdP" ++
      "PkKABAbVAbTBcPAbdKAbtNFBbPBIyNCEAgJBvZFbMAbAEpGACCcSKbXDhKAbPAcUBeQBcKAcYAJCeABgWBdCBQAYGDEd" ++
      "LCBBNBdRADAeTBjRBeWAeOBeLAkJBjYBEAgAAdFASAdDAqFAjYABBdDAcNAnVBXAhyAOqzPAdsAEcHGvSBvAQdCBygCD" ++
      "BGBBltHbTCWuYCDFIHCGbEDfmWcJhMGoLAcJDbdMBbcIGeFCBC"),
   ("emoji",
     "bJAGAFJeHAEAlyRAMAiIAWAdMFPBoDBMAgKAZKEChRAiXBKAJAcGDBEJACACBCAEACABBCADADBICFABAFLLBCABBBAS" ++
      "ACBSFBABBDBFACBEBLBFBCAFBBABBUBFFBDCAEACACFBACABABAGADAGAKBPACAEABAECBALBbWCJAOAOAoIBrVCTBbZ" ++
      "AEAbvUAMAxDABAgmrQAhUAgEBMBOACJcXZBBXAUACIVBgSbHCeHCBBCCdECCBkCBcKLFBXHBCHMACDCAEBNBCAIBJAFC" ++
      "MCICCABAEAGADAGdHbWcRFHCDDJDABBDACJiTLEAkXbUBJBhCeIMDKDcEBAEPCLEJ"),
   ("emojicomponent ecomp",
     "bJAGAFJmbJAiFAdftRAdoiWZtNEceADbsvuQdR"),
   ("emojimodifier emod",
     "hhiXE"),
   ("emojimodifierbase ebase",
     "olHAiLAQDgsjVAcICCACCeNBCKVSDAECBCHABAYAhTBEAVAEBgSCDEdFAQCJALAwDACAIHGAJJCCcEAcJBBBBARCBMiV" ++
      "CbQI"),
   ("emojipresentation epres",
     "nhQBhXDDACAuBBVBbYLbRATANAIBRBFBIAFAVAHBBAEACAHAEBbCAbJABAECBAcJCYAOAbhBBbZAEAgplEAhUAhIACJc" ++
      "XZBAYAUACEBCVBgSbGMIBcRBVMbQEEMQDADcSBABhECcKNDBXSAbABNAdIdGbWcRGADCCDDDLBHIiTLEAkXbUBJBhCeI" ++
      "MDKDcEBAEPCLEJ"),
   ("extendedpictographic extpict",
     "gNAEAlyRAMAiIAWAdMFPBoDBMAgKAZKEChRAiXBKAJAcGDBEJACACBCAEACABBCADADBICFABAFLLBCABBBASACBSFBA" ++
      "BBDBFACBEBLBFBCAFBBABBUBFFBDCAEACACFBACABABAGADAGAKBPACAEABAECBALBbWCJAOAOAoIBrVCTBbZAEAbvUA" ++
      "MAxDABAgmrQAbNDdWLPBPAOBbLJeIBMBOACJTcDbBOKAUACIBDJWGhFCeHCBBCCdECCBDFjTBcKLFBXHBCHMACDCAEBN" ++
      "BCAIBJAFCMCICCABAEAGADAGdHbWcRFHCQDABFCMiKbLMDcEHKFbOHbEBMDCNJbMMbUBJBhCdKHOfPjWbnH"),
   ("extender ext",
     "hBAuQBbhUAqZAyGAfHAdLAbcYAeXAdnFAcEAxNApIAcQAhkJAbREdZBdPCbqbUAcgSAblAAWAfHAeEAVBbfzVAdbKBcf" ++
      "BAbBAEAbvBAlHAeMBtECbvJAbgAAbdiEBbtKBBAOBbqxKBbuFAbgUC"),
   ("graphemebase grbase",
     "bGdQbHMBwVeIHCFEGBABTBiPHgJBbLCbXCCbUABACACAJbAEFRJLABbTVPBdWIAGBCAEbFCABbDbDdKLAObQJGDXEAJA" ++
      "DAHOBYFABKFbFQbPcFcCBABDIDBCHJCbCBBBHCBCVBGBADDDABBGBCBBANBBCEXFABFEBCVBGBBBBBBECYDBAHJCCBAM" ++
      "ABIBCBVBGBBBEDDIABBDAPBELHAIBBHCBCVBGBBBEDACAGBCBPBBCERLABFDCBDDBBABBDBDCDLFABBDCBCDAVUGCBHB" ++
      "CBWBPDADDTCBBCBEJHJBKBCBWBJBEDBCABBXCBBEJBCOKBCBbOCABBFCBCBBECBJEZCBBRDXBIBACGJBGGHJCCMbVBBL" ++
      "HIMbLBBABEBXBABJBBJACEBAJJCDbGXCbABABABNBbJSAFACEbXHBFBMbLbSEAGACBCYCDDPEMBBCFBOBbNBAFACoMBD" ++
      "CGBABDCbOBDCbGBDCGBABDCOBcEBDCcOFbCDZGdHCFCzSDdKHRNSDBJROMBCPbZCAHHBBLIDJGJGKFJGdKHECbHBAFcR" ++
      "KbEEDCCEBBFHADbPCELbREZGKDcECBDcDBAJABBIFNJGJGNdIbVKDDHBbCJLCbFEBGcDBACCBANbVIBFODcJFbQCKLAN" ++
      "AHDBFBCCAFhJcMkRCFCbLCFCHBABABABbECcABOBNCFBSCCBIBKFXHbWQBCbABMDbHcKfJEzPWKVcrRCoMDBFbSBAFAC" ++
      "cDHBPWJGBGBGBGBGBGBGBGbHdPbIZBdKMiFbAcFGPBdHEdWFbQBdPBdHJbVBbriQDcCJnJUbUEAKbFCdBCFIiMUQBCBD" ++
      "BYCEEJGcDIcPKLYMBbLIYLAMbDGbVBBEBCBBMBKEGBYBbOGBCBLCBHBACJCbFBbYBADBCECABAYQCHLFCFCFJGBGBcHE" ++
      "eMBBBDDJGqnRMWEbWmnCoBCeBbMGMEFABXBEBABBBBByZbGPQJWbIBSBDEEBfEEgACbEDFCFCFCCDGBGNBCLBZBSBBBO" ++
      "CNbIeSFCEbSDdJBMDAbVbSfBbCDbWQbAEbJJbDFbLKbDBbKENbQgBCJGbJEbJEbNIbZLLBOBGBBBKBOBGBBDbZMlYJVK" ++
      "HYFBbPBIcRFCABbRBBDACWBcTIIbWSBBFbGDbAFbAbMcDETCbUPDBCBbCKIHIHcLbGbKGLJcBDbCCbAFZHDMGdCcUcDb" ++
      "YNbYHbPMJGbLIXIBiAbEBbPDACBQFIIbNbNIVLIWREDbMbBUWJABcBPGEbDBBCAMbWEBCBBDOYHJJbJFAJRIbIBCLbZJ" ++
      "ABHEBBPBTLRBbBDBEFBBcLGBABDBOBKGbUBCNJIBBHCBCVBGBBBEDABABDCBCBDAMGbCJBACABbLBABBPABBDABCBBbN" ++
      "cDIBDABUBABCbEbVBBGABBBACACDIJgKbUBBGDCACbAbKbYIBBACDLJGMTbQBABBIBGJGTbCbADABBEAJWhDbUJACAdW" ++
      "dEMHCACHBBBXBEBBGDBCJJcSHCbPIDBDbBAKbNGBEHJAGBDbTNACINcUHJdJADABAdKbHOJGIBbLOABFKbCDbFZAHACA" ++
      "cXGBBBbLVAJJGFBBBbKEBBABAHJGbREJjMSCDJOBbJIBDWdIAPbXNbjMdYeGBELhNdxKdUNbpFRFZfxQFwKkdDbDMCDJ" ++
      "coSvWHbEBJEdCBJGbDHAKbVHOKJBGBUFSqQcFhQdMFYCYbScWFcDLMcMDOEJkxXbPbFdTeKmwRDBGBBBlEPAbDCCAODI" ++
      "pFdkUeCFMDIHJCACAfvKjSDqTGWPQdReLcIjLKbMCcHFCWBHbDEcIVcNDAeSTMTMdIJYfFdGBcSBBCACBCDBLBABGBcM" ++
      "BDCHBGBbBBDBEBADGBnBClFCvPcDDbYHBNBGbrWbEGFkBcJfQbSKGCJEBmIbDSbREJFArWbBEJiGbDCKEAhKbEBCBBBG" ++
      "CEJBiQGBDBBBOBhOCIbWcPHAEJEBbeFcPcYcIhMDBbABBBACABJBDBABAGAEABABABCBBBACABABABABABBBACDBGBDB" ++
      "DBABJBQFCBEBQcABkKbREdVMOCOBOBbKKgRcEbCNbREIHBOFfYblWDQDMDiJGLEAPLEcDIJGbNIbDCLEBOIbNnFINCMD" ++
      "KDcEBAEPCLEJHfQBdYbnPclfBbGgmNCioBClbKPxXdqWuVcfYhhYFmoN"),
   ("hexdigit hex",
     "bWJHFbAFdslLJHFbAF"),
   ("idsbinaryoperator idsb",
     "seABCJtDA"),
   ("idstrinaryoperator idst",
     "seCB"),
   ("idcontinue idc",
     "bWJHZEABZbVAKABACAFWBbEBrPELOEHABAReMBBCDBAGEBABTBdEBfIBECgJBbLCAGbOIbSBABBBBBAIbAEDbDKFcVEd" ++
      "XBHCJBSCAQcGCdWOcBEACACbTSbBEKFXBGHcWBeYCJBSBHCBCVBGBADDCICBCDIAEBBECLKABACCBFEBCVBGBBBBBBCA" ++
      "BEEBCCDAHDBAHPLCBIBCBVBGBBBECJBCBCCAPDCJJGBCBHCBCVBGBBBECICBCCHCEBBECJBAQBBFDCBDDBBABBDBDCDL" ++
      "EEDCBDCAGAOJQMBCBWBPCIBCBDHBBCBBCDCJQDBHBCBWBJBECIBCBDHBFCBDCJBCMMBCBbYBCBEFDHECJKFBCBRDXBIB" ++
      "ACGDAEFBABHGJCBNcFFOBJbNBBABEBXBABWCEBABGBJCDbGAXBGJLABABAEJBbJETBRBbJJAcFcVGcZCbLBAFACbQBmU" ++
      "BDCGBABDCbOBDCbGBDCGBABDCOBcEBDCcOCCJIOPQdHCFDxVCQBZFcWDKHVJVLTMMBCBBMdFDAEBCJbHCBKGdKHbQFcR" ++
      "KbEBLELKbNCELbREZGKbLbBEcKBbCCKGJNAINBbECLUcYDJRIMeLMcDIJDbWCKFbQCCQCBbMFuNCFCbLCFCHBABABABb" ++
      "ECcABGBADCBGDDCFEMFCBGPBbXBTAbCANAQMbZMEADLRAEACJBACFGABABABPCDFEEARbOdzBiUGIMbLBAFACcDHAPXJ" ++
      "GBGBGBGBGBGBGBGBbFtXCZOBECEEdHCGBdQFbQBdPRbFbWPtSjtNcMbguEcPbTCkIDbBUbVEJBeKbLICdYCdDUcCEATb" ++
      "ZMcRKJGXDABbWCbJMbCDcMOKGbEBcCJNCJGWDcUYCCPCEKFCFCFJGBGBbQBNGeSBBCJGqnRMWEbWmnCoBCeBbMGMEFLB" ++
      "MBEBABBBBBeDbHnYScLCcBbOLEPQPDBYCbGEBfETJHZEABZKdLDFCFCFCCbJLBZBSBBBOCNbIeScRcAfGAfAbCDbWPAb" ++
      "FbFNbDFbQFbDCbJEHBEbQgBCJGbJEbJEbNIbZMKBOBGBBBKBOBGBBDbZMlYJVKHYFBbPBIcRFCABbRBBDACWKWJbEcNS" ++
      "BBKVKZGZbMcDGBcMDBBFHBCBbCCCEAbGbCDbCbJHBbDZcBKVKSNReGcUcDbYNbYNbNIJGbLDEBWjQbPBBDBQFbYbIKAI" ++
      "bGbFVbQUbBWJcSbFPJcHHANYHJGcABJEDIbJCAJcQEDBMBAbJRBbKGDcKGBABDBOBJHcGFJGDBHCBCVBGBBBEBJCBCCC" ++
      "AGAFGCGDELJBACABbLBJBACABDBHNBbDcWFJEDbEcRBAIJgKcBCIXFbIcMDALJbMcEHJGTbCbACOEJGGhDcGdXcVVHCA" ++
      "CHBBBbDBBCIMJcSHCbTCHBBbBcKIAIcVDAScUdZHdKbGPJGIBbSBIPJYbDCVBNcVGBBBbRDABBBIIJGFBBBbKBBBFHJG" ++
      "bREJjMWJQBbODENKdHAdBbjLdYeGRhNdxKdSPbpFQVKfxQFwKkdDcFcoSvWHbEBJGdABJGbDCELcCJDMJJUFSqQbSDJh" ++
      "QcLbGYCYbScWEcEHQcMBBBLGJkxXbPbFdTeKmwRDBGBBBlEPAbDCCAODIpFdkUeCFMDIHJDBgeRJtYbTCWuWEDFIHCGb" ++
      "EDfSCrBdGBcSBBCACBCDBLBABGBcMBDCHBGBbBBDBEBADGBnBCYBYBbEBYBbEBYBbEBYBbEBYBHCbXtScCEbXIAOAWEB" ++
      "ObqMbEGFiFGBQCGBBBEFcJbHAeIbSDNCJEAmJbERcFsCbPiGbQhPbEBVIBiQGBDBBBOBhOLGbPcXEJbtUDBbABBBACAB" ++
      "JBDBABAGAEABABABCBBBACABABABABABBBACDBGBDBDBABJBQFCBEBQfaAJbnQclfBbGgmNCioBClbKPxXdqWuVcfYhh" ++
      "YFmoNbogxYjF"),
   ("idstart ids",
     "cNZGZbVAKAEAFWBbEBrPELOEHABAeZEBBCDBAGABCBABTBdEBfIIgJBbLCAGbOcTbAEDbTbQbJBBdUBAPBHBKCCAQABb" ++
      "DbDdKLAYbGJBEAFVEAJADAXYHKFXBGQbPcGcBDASAHJPPEHCBCVBGBADDDAQANBBCOBKAIFEBCVBGBBBBBBbFDBATCQI" ++
      "BCBVBGBBBEDASAPBXALHCBCVBGBBBEDAbEBBCPARABFDCBDDBBABBDBDCDLWAcAHBCBWBPDAbACBBCBbEAEHBCBWBJBE" ++
      "DAbECBBPBRIBCBbOCAQAFCICYFFRDXBIBACGcGbVBBMGcGBBABEBXBABJBBJACEBAVDbGAcLHBbJbBEeLbQUAQFEDDAD" ++
      "BHCEMMARbLBAFACbQBmUBDCGBABDCbOBDCbGBDCGBABDCOBcEBDCcObLPQdHCFDxVCQBZFcWDKHRNSOROMBCPbZbJAEA" ++
      "cPdKHbOBAFcRKbEbXbDCELbREZcCWJcAdEAdPbURHcCbDNBKbRbAbJbPCKbJCKFbQCCbPDBFBBDAFhJcMkRCFCbLCFCH" ++
      "BABABABbECcABGBADCBGDDCFEMFCBGeMANAQMdXAEACJBACFGABABABPCDFEEARbOdzBiUGDDBMbLBAFACcDHAQWJGBG" ++
      "BGBGBGBGBGBGvECZIHECEEdHEEBdLBDFbQBdPRbFbWPtSjtNcMbguEcPbTCkIDPKBUbUQbECdBbNICdYCdDUQBCBDBWb" ++
      "DbZObXcKFDABBLbBKWZbCHbUbCAQEBJKEBbOXCBHUWDADbXBADBCECABAYCCKHCMFCFCFJGBGBbQBNGeKbDqnRMWEbWm" ++
      "nCoBCeBbMGMEFABJBMBEBABBBBBeDbHnYScLCcBbOLeMEBfEbKZGZLdKDFCFCFCCbJLBZBSBBBOCNbIeScRcAkHbCDbW" ++
      "bVbFNbDFbLKbDCbJEHBEbQgBSbJEbJEbNIbZMKBOBGBBBKBOBGBBDbZMlYJVKHYFBbPBIcRFCABbRBBDACWKWJbEcNSB" ++
      "BKVKZGZbMcDGBcMAPDBCBbCbQbCDbCbJHBbBbBcBKVKSNReGcUcDbYNbYNbJbMbBJWjQbPGBQFcEbCKAIVbQRbUUbBWM" ++
      "cAcFBCANbSbGYbAbJbDACAIbIDAMbVODVABAbJRBYTBcLGBABDBOBJHbUbMHCBCVBGBBBEDASAMEbEJBACABbLBAZABA" ++
      "bScASDUCbEbVUBBAhCbUbPDbKbVUAcHbQNAcTbAbLGhDbReMcLbFHCACHBBBXPABAdQHCbMQABAbCAKbNHAVALbTTASc" ++
      "UhRbGbFIBbKRAbXbDeIGBBBbLVAZFBBBbFOAXbRkASPABMBbHeUAdBbjLdYeGRhNdxKdSPbpFRFZfxQFwKkdDbDcpUvW" ++
      "HbERdARbDSbVQDbFUFSqQbSiDcLbGYCYbScWFAcOMcMBBAOEJkxXbPbFdTeKmwRDBGBBBlEPAbDCCAODIpFdkUeCFMDI" ++
      "HJiwKdGBcSBBCACBCDBLBABGBcMBDCHBGBbBBDBEBADGBnBCYBYBbEBYBbEBYBbEBYBbEBYBHcsYbEGFkBcJfQbSKGQA" ++
      "mJbDSbRsQbBiUbDCAhZbEBCBBBGCEJBiQGBDBBBOBhOcHcPHAbuIDBbABBBACABJBDBABAGAEABABABCBBBACABABABA" ++
      "BABBBACDBGBDBDBABJBQFCBEBQgoAclfBbGgmNCioBClbKPxXdqWuVcfYhhYFmoN"),
   ("ideographic ideo",
     "seWBZIOCblDjtNcMbfbJbhsIoBCeBbsiKANEJkxXbPbFdTeKnlLpFbdeIclfBbGgmNCioBClbKPxXdqWuVcfYhhYFmoN"),
   ("logicalorderexception loe",
     "fkIEeTEedSCCAccxMBCABB"),
   ("lowercase lower",
     "dTZbVAKAEAbKXBHBABABABABABABABABABABABABABABABABABABABABABABABABABABABBBABABABABABABABBBABAB" ++
      "ABABABABABABABABABABABABABABABABABABABABACABABCCABACADBEACADCCACABABACABBBACADABACBCCGACACAB" ++
      "ABABABABABABABBBABABABABABABABABBCABADABABABABABABABABABABABABABABABABABABABABABABABABABABAB" ++
      "ABABGCACBBAEABABABABcQCbIHBbEEdSAbRABADACDSAbBbIBBDCBABABABABABABABABABABABEBACACBbZbVBABABA" ++
      "BABABABABABABABABABABABABABAJABABABABABABABABABABABABABABABABABABABABABABABABABABACABABABABA" ++
      "BABBBABABABABABABABABABABABABABABABABABABABABABABABABABABABABABABABABABABABABABABABABABABABA" ++
      "BABABABAbWbOehBbQBDbdGFdfUIBAeNhJcNABABABABABABABABABABABABABABABABABABABABABABABABABABABABA" ++
      "BABABABABABABABABABABABABABABABABABABABABABABABABABABABABABABABABABABABABABABABABABABABABABI" ++
      "BABABABABABABABABABABABABABABABABABABABABABABABABABABABABABABABABABABABABABABABABABABABABABA" ++
      "BABABIIFKHIHIFKHIHINCHIHIHIEBBGADCBBIDCBIHKCBBeRANAQMeFADBDAbBAEAEACBIDEAbHPEAbgLZctQbVBADBB" ++
      "ABABAEABBBHDABABABABABABABABABABABABABABABABABABABABABABABABABABABABABABABABABABABABABABABAB" ++
      "ABABABABABABABABABBHABAEAMbLBAFAbtwDABABABABABABABABABABABABABABABABABABABABABABATABABABABAB" ++
      "ABABABABABABABABCfDABABABABABABCBABABABABABABABABABABABABABABABABABABABABABABABABABABABABABA" ++
      "BJBABACABABABABAEABACABCBABABABABABABABABABAFAFABABABABABABABAEABACABABABABABABABAVDBABCbfPb" ++
      "QBNGdBbeaIGMEboZZbvHbNfGbJfZKBOBGBBrJACCBbPBIbxLbYeVVegObFbgjWbFcHYbmjEZbAGBRbAZbADBABGBKbAZ" ++
      "bAZbAZbAZbAZbAZbAZbAZbAbBbCYBFbAYBFbAYBFbAYBFbAYBFBAcsYJBTGFkBcJdhSbH"),
   ("math",
     "bRAQCbFAbDABAbTAEAbLAbFAbcACCAbABCCuHCjwNAbBCLADANAODVELEcNMEADBEESAEACJBACFGADBCBBCBFDNBAcQ" ++
      "XBFBBEBEbFBAGBOkHIDUBdMAbEbABAYALGrDBMJEFEBCBDEOABACFLHFBcFABAbDDJCmYcLjWtRbWUCFdasQAbfRFBAg" ++
      "GAQCbDABAbDABAfBAGDfeFBcvgAAbxVdGBcSBBCACBCDBLBABGBcMBDCHBGBbBBDBEBADGBnBClFCbXiiQDBbABBBACA" ++
      "BJBDBABAGAEABABABCBBBACABABABABABBBACDBGBDBDBABJBQFCBEBQcABdtEI"),
   ("noncharactercodepoint nchar",
     "dsdCbFuGBdsyOBdsyOBdsyOBdsyOBdsyOBdsyOBdsyOBdsyOBdsyOBdsyOBdsyOBdsyOBdsyOBdsyOBdsyOBdsyOB"),
   ("patternsyntax patsyn",
     "bHOKGbADBAbADbIGBABBBABBEAEADAXAbFAluEXIOCSBJlTbbRgEyFbEbrNtSeXoVCEYPAczqZBkBB"),
   ("patternwhitespace patws",
     "JESAdWAlyMBYB"),
   ("quotationmark qmark",
     "bIAEAfBAPAlwUHZBfiDArPDNCdabPDhHAEAdMB"),
   ("radical",
     "rpWZBdKMiF"),
   ("regionalindicator ri",
     "hgoKZ"),
   ("sentenceterminal sterm",
     "bHAMAQAcaBAfRCgYAbRCjMAcJABADBlHBcpWBbeKAEBbdTAhQBgBBbTAFAmCBnQDgGBKBCBbDChFBcNBbjWAXBJCeuXC" ++
      "lUANAWBqNAbshWAkKBiTADAoSBdIBdRAfWBfRCfOBjPAbfcWACBcHADBgNAMAQAcNAedWBbxDEbSDhHBeNDeXCeZBGAQ" ++
      "BdKBBBeEAlMBeNBoJBFOeBBjPCtXABAjRBdJBqEBbaQBcWBbcmBBfDAcNBLAvHBlKAbdoGAliMA"),
   ("softdotted sd",
     "eBBhOAkVAbEAcAAUAmIAdUABAjmNAbZANADAfCAgBAqFAiGBegGAgelHBbYBbYBbYBbYBbYBbYBbYBbYBbYBbYBbYBbY" ++
      "BdfYAlTBbAA"),
   ("terminalpunctuation term",
     "bHAKABALBDAbfYAIAtTAcFAcUAOABCgYAbRKBAjBBcCFBHbFAkBBbwUBgQAEFlZBbeJHbdTAeUCcTBgBCDAbNDCBmCBn" ++
      "QDgGBKBBCbDChFEcKBbjWAXBJCeuXClUANAEAKABBDBqMBbshVBkJCiTEoSBdIBdRAfVCfRCeXAQBjPAbfcWACBcFCBD" ++
      "gNAKABALBDAcNACAbpQAbWAbsOAhRAlYBfWFcQFdLDbkQEbSDhHGeIDeXCeZBGAQBdKEeEAlMBeNCMBnUDDOeBBjPCtX" ++
      "ABAjRBdJBEBpYCbTAyVBcWBbyXEbamZBfDAcNCKAvHBlJBbdoGAliLD"),
   ("unifiedideograph uideo",
     "tsAjtNcMbfbJbicSBBABBKABABBCCdveCclfBbGgmNCioBClbKPxXgrQhhYFmoN"),
   ("uppercase upper",
     "cNZdXWBGbHABABABABABABABABABABABABABABABABABABABABABABABABABABABACABABABABABABABACABABABABAB" ++
      "ABABABABABABABABABABABABABABABABABABBBABADBBABBBCCDBBBCDBBBBABABBBACABBBCBABBDAHACACACABABAB" ++
      "ABABABABACABABABABABABABABACACABCBABABABABABABABABABABABABABABABABABABABABABABABABABABABABAH" ++
      "BBBCABDBABABABAlDABADAIAGABCBABBBQBIbJACCDABABABABABABABABABABABAFACABBCbYbWABABABABABABABAB" ++
      "ABABABABABABABABAJABABABABABABABABABABABABABABABABABABABABABABABABABABABBBABABABABABACABABAB" ++
      "ABABABABABABABABABABABABABABABABABABABABABABABABABABABABABABABABABABABABABABABABABABABABACbL" ++
      "ehDbLBAFAbbUdHdgLAGbQCCmIABABABABABABABABABABABABABABABABABABABABABABABABABABABABABABABABABA" ++
      "BABABABABABABABABABABABABABABABABABABABABABABABABABABABABABABABABABABABABABABABABAJABABABABA" ++
      "BABABABABABABABABABABABABABABABABABABABABABABABABABABABABABABABABABABABABABABABABABABABAJHIF" ++
      "KHIHIFLABABABAIHcUDMDMDMELDkCAEADCCCCADEGABABABDCDKBFAbAPTAbfMZcsUbVbWABCCABABABDBACAICBABAB" ++
      "ABABABABABABABABABABABABABABABABABABABABABABABABABABABABABABABABABABABABABABABABABABABABABAB" ++
      "AIABAEAbtyJABABABABABABABABABABABABABABABABABABABABABABATABABABABABABABABABABABABABAfFABABAB" ++
      "ABABABADABABABABABABABABABABABABABABABABABABABABABABABABABABABABABABAKABABBBABABABAEABACABAD" ++
      "ABABABABABABABABABABEBEBABABABABABABABDBABBBABABABABABABABAYAbhaHZbuZbNfGbJgAKBOBGBBcqCbYgBV" ++
      "egObFbgjWbFcMYbmjFZbAZbAZbAABBCACBCDBHbAZbABBDCHBGbBBBDBEBADGbBZbAZbAZbAZbAZbAZbEYbHYbHYbHYb" ++
      "HYbHAgnLbHdbIZGZGZ"),
   ("variationselector vs",
     "jcTCBAdjcAPbwnkYjF"),
   ("xidcontinue xidc",
     "bWJHZEABZbVAKABACAFWBbEBrPELOEHABAReMBBDCBAGEBABTBdEBfIBECgJBbLCAGbOIbSBABBBBBAIbAEDbDKFcVEd" ++
      "XBHCJBSCAQcGCdWOcBEACACbTSbBEKFXBGHcWBeYCJBSBHCBCVBGBADDCICBCDIAEBBECLKABACCBFEBCVBGBBBBBBCA" ++
      "BEEBCCDAHDBAHPLCBIBCBVBGBBBECJBCBCCAPDCJJGBCBHCBCVBGBBBECICBCCHCEBBECJBAQBBFDCBDDBBABBDBDCDL" ++
      "EEDCBDCAGAOJQMBCBWBPCIBCBDHBBCBBCDCJQDBHBCBWBJBECIBCBDHBFCBDCJBCMMBCBbYBCBEFDHECJKFBCBRDXBIB" ++
      "ACGDAEFBABHGJCBNcFFOBJbNBBABEBXBABWCEBABGBJCDbGAXBGJLABABAEJBbJETBRBbJJAcFcVGcZCbLBAFACbQBmU" ++
      "BDCGBABDCbOBDCbGBDCGBABDCOBcEBDCcOCCJIOPQdHCFDxVCQBZFcWDKHVJVLTMMBCBBMdFDAEBCJbHCBKGdKHbQFcR" ++
      "KbEBLELKbNCELbREZGKbLbBEcKBbCCKGJNAINBbECLUcYDJRIMeLMcDIJDbWCKFbQCCQCBbMFuNCFCbLCFCHBABABABb" ++
      "ECcABGBADCBGDDCFEMFCBGPBbXBTAbCANAQMbZMEADLRAEACJBACFGABABABPCDFEEARbOdzBiUGIMbLBAFACcDHAPXJ" ++
      "GBGBGBGBGBGBGBGBbFtXCZOBECEEdHCBCCBdQFbQBdPRbFbWPtSjtNcMbguEcPbTCkIDbBUbVEJBeKbLICdYCdDUcCEA" ++
      "TbZMcRKJGXDABbWCbJMbCDcMOKGbEBcCJNCJGWDcUYCCPCEKFCFCFJGBGBbQBNGeSBBCJGqnRMWEbWmnCoBCeBbMGMEF" ++
      "LBMBEBABBBBBeDbHfIGiJScLCcBbOJGPQPDBYCbHABADABABABABeVTJHZEABZKdLDFCFCFCCbJLBZBSBBBOCNbIeScR" ++
      "cAfGAfAbCDbWPAbFbFNbDFbQFbDCbJEHBEbQgBCJGbJEbJEbNIbZMKBOBGBBBKBOBGBBDbZMlYJVKHYFBbPBIcRFCABb" ++
      "RBBDACWKWJbEcNSBBKVKZGZbMcDGBcMDBBFHBCBbCCCEAbGbCDbCbJHBbDZcBKVKSNReGcUcDbYNbYNbNIJGbLDEBWjQ" ++
      "bPBBDBQFbYbIKAIbGbFVbQUbBWJcSbFPJcHHANYHJGcABJEDIbJCAJcQEDBMBAbJRBbKGDcKGBABDBOBJHcGFJGDBHCB" ++
      "CVBGBBBEBJCBCCCAGAFGCGDELJBACABbLBJBACABDBHNBbDcWFJEDbEcRBAIJgKcBCIXFbIcMDALJbMcEHJGTbCbACOE" ++
      "JGGhDcGdXcVVHCACHBBBbDBBCIMJcSHCbTCHBBbBcKIAIcVDAScUdZHdKbGPJGIBbSBIPJYbDCVBNcVGBBBbRDABBBII" ++
      "JGFBBBbKBBBFHJGbREJjMWJQBbODENKdHAdBbjLdYeGRhNdxKdSPbpFQVKfxQFwKkdDcFcoSvWHbEBJGdABJGbDCELcC" ++
      "JDMJJUFSqQbSDJhQcLbGYCYbScWEcEHQcMBBBLGJkxXbPbFdTeKmwRDBGBBBlEPAbDCCAODIpFdkUeCFMDIHJDBgeRJt" ++
      "YbTCWuWEDFIHCGbEDfSCrBdGBcSBBCACBCDBLBABGBcMBDCHBGBbBBDBEBADGBnBCYBYBbEBYBbEBYBbEBYBbEBYBHCb" ++
      "XtScCEbXIAOAWEBObqMbEGFiFGBQCGBBBEFcJbHAeIbSDNCJEAmJbERcFsCbPiGbQhPbEBVIBiQGBDBBBOBhOLGbPcXE" ++
      "JbtUDBbABBBACABJBDBABAGAEABABABCBBBACABABABABABBBACDBGBDBDBABJBQFCBEBQfaAJbnQclfBbGgmNCioBCl" ++
      "bKPxXdqWuVcfYhhYFmoNbogxYjF"),
   ("xidstart xids",
     "cNZGZbVAKAEAFWBbEBrPELOEHABAeZEBBDCBAGABCBABTBdEBfIIgJBbLCAGbOcTbAEDbTbQbJBBdUBAPBHBKCCAQABb" ++
      "DbDdKLAYbGJBEAFVEAJADAXYHKFXBGQbPcGcBDASAHJPPEHCBCVBGBADDDAQANBBCOBKAIFEBCVBGBBBBBBbFDBATCQI" ++
      "BCBVBGBBBEDASAPBXALHCBCVBGBBBEDAbEBBCPARABFDCBDDBBABBDBDCDLWAcAHBCBWBPDAbACBBCBbEAEHBCBWBJBE" ++
      "DAbECBBPBRIBCBbOCAQAFCICYFFRDXBIBACGcGbVBANGcGBBABEBXBABJBAKACEBAVDbGAcLHBbJbBEeLbQUAQFEDDAD" ++
      "BHCEMMARbLBAFACbQBmUBDCGBABDCbOBDCbGBDCGBABDCOBcEBDCcObLPQdHCFDxVCQBZFcWDKHRNSOROMBCPbZbJAEA" ++
      "cPdKHbOBAFcRKbEbXbDCELbREZcCWJcAdEAdPbURHcCbDNBKbRbAbJbPCKbJCKFbQCCbPDBFBBDAFhJcMkRCFCbLCFCH" ++
      "BABABABbECcABGBADCBGDDCFEMFCBGeMANAQMdXAEACJBACFGABABABPCDFEEARbOdzBiUGDDBMbLBAFACcDHAQWJGBG" ++
      "BGBGBGBGBGBGvECZIHECEEdHGCBdLBDFbQBdPRbFbWPtSjtNcMbguEcPbTCkIDPKBUbUQbECdBbNICdYCdDUQBCBDBWb" ++
      "DbZObXcKFDABBLbBKWZbCHbUbCAQEBJKEBbOXCBHUWDADbXBADBCECABAYCCKHCMFCFCFJGBGBbQBNGeKbDqnRMWEbWm" ++
      "nCoBCeBbMGMEFABJBMBEBABBBBBeDbHfIGiJScLCcBbOJePABADABABABABeVbKZGZLcDCbEDFCFCFCCbJLBZBSBBBOC" ++
      "NbIeScRcAkHbCDbWbVbFNbDFbLKbDCbJEHBEbQgBSbJEbJEbNIbZMKBOBGBBBKBOBGBBDbZMlYJVKHYFBbPBIcRFCABb" ++
      "RBBDACWKWJbEcNSBBKVKZGZbMcDGBcMAPDBCBbCbQbCDbCbJHBbBbBcBKVKSNReGcUcDbYNbYNbJbMbBJWjQbPGBQFcE" ++
      "bCKAIVbQRbUUbBWMcAcFBCANbSbGYbAbJbDACAIbIDAMbVODVABAbJRBYTBcLGBABDBOBJHbUbMHCBCVBGBBBEDASAME" ++
      "bEJBACABbLBAZABAbScASDUCbEbVUBBAhCbUbPDbKbVUAcHbQNAcTbAbLGhDbReMcLbFHCACHBBBXPABAdQHCbMQABAb" ++
      "CAKbNHAVALbTTAScUhRbGbFIBbKRAbXbDeIGBBBbLVAZFBBBbFOAXbRkASPABMBbHeUAdBbjLdYeGRhNdxKdSPbpFRFZ" ++
      "fxQFwKkdDbDcpUvWHbERdARbDSbVQDbFUFSqQbSiDcLbGYCYbScWFAcOMcMBBAOEJkxXbPbFdTeKmwRDBGBBBlEPAbDC" ++
      "CAODIpFdkUeCFMDIHJiwKdGBcSBBCACBCDBLBABGBcMBDCHBGBbBBDBEBADGBnBCYBYBbEBYBbEBYBbEBYBbEBYBHcsY" ++
      "bEGFkBcJfQbSKGQAmJbDSbRsQbBiUbDCAhZbEBCBBBGCEJBiQGBDBBBOBhOcHcPHAbuIDBbABBBACABJBDBABAGAEABA" ++
      "BABCBBBACABABABABABBBACDBGBDBDBABJBQFCBEBQgoAclfBbGgmNCioBClbKPxXdqWuVcfYhhYFmoN")]

def alphabeticSet : CharSet :=
  setOfTable alphabeticTable

def whiteSpaceSet : CharSet :=
  setOfTable whiteSpaceTable

def graphemeExtendSet : CharSet :=
  setOfTable graphemeExtendTable

def decimalDigitSet : CharSet :=
  categoryUnion ["nd"]

def alphanumericSet : CharSet :=
  alphabeticSet.union (categoryUnion ["nd", "nl", "no"])

/-- The characters of words: letters, marks, decimal digits, connecting punctuation and the two
joiners. -/
def wordSet : CharSet :=
  (alphabeticSet.union (categoryUnion ["mn", "mc", "me", "nd", "pc"])).union
    (setOfTable joinControlTable)

def isWhiteSpace (c : Char) : Bool :=
  whiteSpaceSet.contains c

def propertySet? (name : String) : Option CharSet :=
  (propertyTables.find? fun row => hasName row.1 name).map fun row => setOfTable row.2

end Reroute.Unicode
